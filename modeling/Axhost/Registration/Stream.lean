import Mathlib.Data.List.Induction
import Axhost.Registration.Items

/-!
# Specifications on a stream

`operator<<` writes every field of a specification, and `operator>>` reads a word of the stream
as an item.  Which fields an item leaves out means something to the reader, and nothing left out
is written.  A `std::string` is the text that its UTF-8 encodes.

* `ClassSpec.read_write`: what is read back from what is written;
* `ClassSpec.roundTrips_iff`: when it is the same specification once it has its defaults.
-/

namespace Axhost

namespace QString

/-! ## Between a string and its UTF-8 -/

def isHighSurrogate (c : QChar) : Bool := 0xD800 ≤ c.toNat && c.toNat < 0xDC00

def isLowSurrogate (c : QChar) : Bool := 0xDC00 ≤ c.toNat && c.toNat < 0xE000

def isSurrogate (c : QChar) : Bool := isHighSurrogate c || isLowSurrogate c

/-- A surrogate that is not part of a pair becomes a question mark. -/
def toStdString : QString → QString
  | [] => []
  | [c] => [if isSurrogate c then qLatin1Char '?' else c]
  | c :: d :: s =>
    if isHighSurrogate c && isLowSurrogate d then c :: d :: toStdString s
    else (if isSurrogate c then qLatin1Char '?' else c) ::
      toStdString (d :: s)

def byteOrderMark : QChar := 0xFEFF

/-- A byte order mark in front is not part of the string. -/
def fromStdString (text : QString) : QString :=
  if text.head? = some byteOrderMark then text.tail else text

/-- An unsigned number as a stream writes it. -/
def decimal (value : DWORD) : QString := (Nat.toDigits 10 value.toNat).map qLatin1Char

/-! ## Numbers that are written -/

theorem digitValue_digitChar {digit : Nat} (h : digit < 10) :
    digitValue (qLatin1Char (Nat.digitChar digit)) = some digit := by
  have hall : ∀ digit < 10, digitValue (qLatin1Char (Nat.digitChar digit)) = some digit := by
    decide
  exact hall digit h

theorem digitsFrom_append (base value : Nat) (s t : QString) :
    digitsFrom base value (s ++ t) =
      (digitsFrom base value s).bind fun value => digitsFrom base value t := by
  induction s generalizing value with
  | nil => rfl
  | cons c s ih =>
      rw [List.cons_append, digitsFrom, digitsFrom]
      cases digitValue c with
      | none => rfl
      | some digit =>
          dsimp only
          split_ifs
          · exact ih _
          · rfl

theorem digitsFrom_toDigits (n : Nat) :
    digitsFrom 10 0 ((Nat.toDigits 10 n).map qLatin1Char) = some n := by
  induction n using Nat.strongRecOn with
  | ind n ih =>
      rw [Nat.toDigits_eq_if (by omega)]
      split_ifs with hlt
      · rw [List.map_singleton, digitsFrom, digitValue_digitChar hlt]
        simp [digitsFrom, hlt]
      · have hmod : n % 10 < 10 := Nat.mod_lt n (by omega)
        rw [List.map_append, digitsFrom_append, ih (n / 10) (by omega), Option.bind_some,
          List.map_singleton, digitsFrom, digitValue_digitChar hmod]
        simp only [hmod, if_true, digitsFrom]
        congr 1
        omega

theorem head_toDigits {n : Nat} (hn : n ≠ 0) :
    ((Nat.toDigits 10 n).map qLatin1Char).head? ≠ some (qLatin1Char '0') := by
  induction n using Nat.strongRecOn with
  | ind n ih =>
      rw [Nat.toDigits_eq_if (by omega)]
      split_ifs with hlt
      · have hall : ∀ digit < 10, digit ≠ 0 →
            qLatin1Char (Nat.digitChar digit) ≠ qLatin1Char '0' := by decide
        simpa using hall n hlt hn
      · have hfirst := ih (n / 10) (by omega) (by omega)
        have hne : (Nat.toDigits 10 (n / 10)).map qLatin1Char ≠ [] := by
          simp [Nat.toDigits_ne_nil]
        obtain ⟨c, digits, hdigits⟩ := List.exists_cons_of_ne_nil hne
        rw [hdigits] at hfirst
        rw [List.map_append, hdigits]
        exact hfirst

theorem numeral_decimal (value : DWORD) : Numeral (decimal value) value := by
  by_cases hzero : value = 0
  · rw [hzero]
    exact .zero
  · have hne : value.toNat ≠ 0 := fun h => hzero (BitVec.eq_of_toNat_eq h)
    have hdigits : digitsValue 10 (decimal value) = some value.toNat := by
      rw [digitsValue, if_neg (by simp [decimal, Nat.toDigits_ne_nil])]
      exact digitsFrom_toDigits value.toNat
    have hnumeral := Numeral.decimal (decimal value) value.toNat (head_toDigits hne) hdigits
      value.isLt
    rwa [BitVec.ofNat_toNat, BitVec.setWidth_eq] at hnumeral

/-! ## Texts that are written -/

theorem mem_toStdString {s : QString} {c : QChar} (h : c ∈ toStdString s) :
    c ∈ s ∨ c = qLatin1Char '?' := by
  induction s using toStdString.induct with
  | case1 => simp [toStdString] at h
  | case2 d =>
      rw [toStdString, List.mem_singleton] at h
      split_ifs at h
      · exact Or.inr h
      · exact Or.inl (by simp [h])
  | case3 d e s hpair ih =>
      rw [toStdString, if_pos hpair, List.mem_cons, List.mem_cons] at h
      rcases h with rfl | rfl | h
      · simp
      · simp
      · exact (ih h).imp_left fun hmem => by simp [hmem]
  | case4 d e s hpair ih =>
      rw [toStdString, if_neg hpair, List.mem_cons] at h
      rcases h with h | h
      · split_ifs at h
        · exact Or.inr h
        · exact Or.inl (by simp [h])
      · exact (ih h).imp_left (List.mem_cons_of_mem _)

theorem toStdString_eq_self {s : QString} (h : ∀ c ∈ s, isSurrogate c = false) :
    toStdString s = s := by
  induction s using toStdString.induct with
  | case1 => rfl
  | case2 d => rw [toStdString, h d (by simp), if_neg (by simp)]
  | case3 d e s hpair ih =>
      rw [toStdString, if_pos hpair,
        ih fun c hc => h c (List.mem_cons_of_mem _ (List.mem_cons_of_mem _ hc))]
  | case4 d e s hpair ih =>
      rw [toStdString, if_neg hpair, h d (by simp), if_neg (by simp),
        ih fun c hc => h c (List.mem_cons_of_mem _ hc)]

theorem mem_split {separator c : QChar} {s part : QString} (hpart : part ∈ split separator s)
    (hc : c ∈ part) : c ∈ s ∧ c ≠ separator := by
  unfold split at hpart
  induction s generalizing part with
  | nil =>
      rw [List.splitOn_nil, List.mem_singleton] at hpart
      rw [hpart] at hc
      exact absurd hc List.not_mem_nil
  | cons x s ih =>
      rw [List.splitOn_cons_eq_if_modifyHead] at hpart
      split_ifs at hpart with hx
      · rcases List.mem_cons.mp hpart with rfl | hpart
        · exact absurd hc List.not_mem_nil
        · exact (ih hpart hc).imp_left (List.mem_cons_of_mem _)
      · obtain ⟨first, rest, hfirst⟩ := List.exists_cons_of_ne_nil (List.splitOn_ne_nil separator s)
        rw [hfirst, List.modifyHead_cons] at hpart
        rw [hfirst] at ih
        rcases List.mem_cons.mp hpart with rfl | hpart
        · rcases List.mem_cons.mp hc with rfl | hc
          · exact ⟨List.mem_cons_self, by simpa using hx⟩
          · exact (ih List.mem_cons_self hc).imp_left (List.mem_cons_of_mem _)
        · exact (ih (List.mem_cons_of_mem _ hpart) hc).imp_left (List.mem_cons_of_mem _)

end QString

namespace ClassSpec

open QString

/-- `operator<<`. -/
def write (spec : ClassSpec) : QString :=
  toStdString spec.clsidInput ++ [slash] ++ toStdString spec.aliasInput ++ [slash] ++
    decimal spec.clsctxCreate ++ [slash] ++ decimal spec.clsctxRegister ++ [slash] ++
    decimal spec.regcls

/-- `std::isspace` in the locale of the stream. -/
def isStreamSpace (c : QChar) : Bool := (9 ≤ c.toNat && c.toNat ≤ 13) || c == qLatin1Char ' '

/-- `operator>>`, with the warnings of the parsing: the next word of the stream is the item, and
without one the specification stays as it is. -/
def read (ole : Ole32) (stream : QString) (out : ClassSpec) : ClassSpec × List MessageBox :=
  let token := (stream.dropWhile isStreamSpace).takeWhile fun c => !isStreamSpace c
  if token.isEmpty then (out, []) else fromString ole (fromStdString token)

/-! ## What is read back -/

/-- The two texts of a specification can be fields of an item. -/
def Writable (spec : ClassSpec) : Prop :=
  ∀ text ∈ [spec.clsidInput, spec.aliasInput], ∀ c ∈ text, isSpace c = false ∧ c ≠ slash

theorem isSpace_of_isStreamSpace {c : QChar} (h : isSpace c = false) : isStreamSpace c = false := by
  unfold isSpace at h
  unfold isStreamSpace
  have hspace : (qLatin1Char ' ').toNat = 0x20 := by decide
  by_cases hc : c = qLatin1Char ' '
  · rw [hc, hspace] at h
    exact absurd h (by decide)
  · simp [hc]
    grind

theorem mem_decimal {value : DWORD} {c : QChar} (h : c ∈ decimal value) :
    isSpace c = false ∧ c ≠ slash := by
  refine ⟨(numeral_decimal value).isSpace_eq_false c h, ?_⟩
  rintro rfl
  exact (numeral_decimal value).slash_not_mem h

theorem Writable.mem_toStdString {spec : ClassSpec} (h : spec.Writable) {text : QString}
    (htext : text ∈ [spec.clsidInput, spec.aliasInput]) {c : QChar} (hc : c ∈ toStdString text) :
    isSpace c = false ∧ c ≠ slash := by
  rcases QString.mem_toStdString hc with hc | rfl
  · exact h text htext c hc
  · decide

/-- The fields that are written. -/
def writtenFields (spec : ClassSpec) : List QString :=
  [toStdString spec.clsidInput, toStdString spec.aliasInput, decimal spec.clsctxCreate,
    decimal spec.clsctxRegister, decimal spec.regcls]

theorem write_eq (spec : ClassSpec) : spec.write = [slash].intercalate spec.writtenFields := by
  simp [write, writtenFields, List.intercalate]

theorem Writable.mem_writtenFields {spec : ClassSpec} (h : spec.Writable) :
    ∀ field ∈ spec.writtenFields, ∀ c ∈ field, isSpace c = false ∧ c ≠ slash := by
  simp only [writtenFields, List.forall_mem_cons]
  refine ⟨fun c => h.mem_toStdString (by simp), fun c => h.mem_toStdString (by simp),
    fun c => mem_decimal, fun c => mem_decimal, fun c => mem_decimal, by simp⟩

theorem mem_write {spec : ClassSpec} {c : QChar} (h : c ∈ spec.write) :
    c = slash ∨ ∃ field ∈ spec.writtenFields, c ∈ field := by
  simp only [write, List.mem_append, List.mem_singleton] at h
  simp only [writtenFields, List.mem_cons, List.not_mem_nil, or_false, exists_eq_or_imp,
    exists_eq_left]
  grind

theorem Writable.isStreamSpace_eq_false {spec : ClassSpec} (h : spec.Writable) :
    ∀ c ∈ spec.write, isStreamSpace c = false := by
  intro c hc
  rcases mem_write hc with rfl | ⟨field, hfield, hc⟩
  · decide
  · exact isSpace_of_isStreamSpace (h.mem_writtenFields field hfield c hc).1

theorem fromStdString_append {s t : QString} (ht : t.head? ≠ some byteOrderMark) :
    fromStdString (s ++ t) = fromStdString s ++ t := by
  unfold fromStdString
  cases s with
  | nil => rw [List.nil_append, if_neg ht]; rfl
  | cons c s =>
      rw [List.cons_append, List.head?_cons, List.head?_cons]
      split_ifs
      · rfl
      · rfl

theorem mem_fromStdString {s : QString} {c : QChar} (h : c ∈ fromStdString s) : c ∈ s := by
  unfold fromStdString at h
  split_ifs at h
  · exact List.mem_of_mem_tail h
  · exact h

theorem Writable.read {spec : ClassSpec} (h : spec.Writable) (ole : Ole32) (out : ClassSpec) :
    ClassSpec.read ole spec.write out = fromString ole (fromStdString spec.write) := by
  have hspace := h.isStreamSpace_eq_false
  have hne : spec.write ≠ [] := by simp [write]
  have htake : (spec.write.takeWhile fun c => !isStreamSpace c) = spec.write := by
    rw [List.takeWhile_eq_self_iff]
    intro c hc
    rw [hspace c hc]
    rfl
  have hdrop : spec.write.dropWhile isStreamSpace = spec.write := by
    obtain ⟨c, s, hcs⟩ := List.exists_cons_of_ne_nil hne
    rw [hcs, List.dropWhile_cons_of_neg]
    rw [hspace c (hcs ▸ List.mem_cons_self)]
    simp
  unfold ClassSpec.read
  rw [hdrop, htake]
  exact if_neg (by simpa using hne)

theorem Writable.split {spec : ClassSpec} (h : spec.Writable) :
    QString.split slash (fromStdString spec.write) =
      fromStdString (toStdString spec.clsidInput) :: spec.writtenFields.tail := by
  have hhead : spec.write = toStdString spec.clsidInput ++
      ([slash] ++ [slash].intercalate spec.writtenFields.tail) := by
    rw [write_eq]
    simp [writtenFields, List.intercalate]
  have hslash : ([slash] ++ [slash].intercalate spec.writtenFields.tail).head? ≠
      some byteOrderMark := by
    rw [List.singleton_append, List.head?_cons]
    decide
  have hwrite : fromStdString spec.write = [slash].intercalate
      (fromStdString (toStdString spec.clsidInput) :: spec.writtenFields.tail) := by
    rw [hhead, fromStdString_append hslash]
    simp [writtenFields, List.intercalate]
  rw [hwrite]
  refine QString.split_intercalate ?_ (by simp)
  rw [List.forall_mem_cons]
  refine ⟨fun hc => ?_, fun field hfield hc => ?_⟩
  · exact (h.mem_writtenFields _ (by simp [writtenFields]) _ (mem_fromStdString hc)).2 rfl
  · exact (h.mem_writtenFields _ (List.mem_of_mem_tail hfield) _ hc).2 rfl

/-- The identifier that the text of a field is read as. -/
def readAs (ole : Ole32) (text : QString) : QUuid :=
  if text.isEmpty then 0 else (ole.clsid? text).getD 0

theorem clsidPart_of_getElem (ole : Ole32) (item text : QString) (index : Nat)
    (h : (QString.split slash item)[index]? = some text) (hspace : ∀ c ∈ text, isSpace c = false) :
    (clsidPart ole item index).getD 0 = readAs ole text := by
  rw [clsidPart, ClassItem.part_omitted_or_given _ _ _ h, readAs]
  split_ifs
  · rfl
  · rw [Option.map_some, Option.bind_some, trimmed_eq_self hspace]

theorem numberPart_of_getElem (item : QString) (value : DWORD) (index : Nat)
    (h : (QString.split slash item)[index]? = some (decimal value)) :
    numberPart item index = some value := by
  have hne : (decimal value).isEmpty = false := by simpa using (numeral_decimal value).ne_nil
  rw [numberPart, ClassItem.part_omitted_or_given _ _ _ h, hne, if_neg (by simp), Option.bind_some,
    (numeral_decimal value).toUInt_eq]

/-- The numbers come back, the flags as explicit ones; the identifiers are those of the texts, the
first without a byte order mark. -/
theorem Writable.read_write {spec : ClassSpec} (h : spec.Writable) (ole : Ole32)
    (out : ClassSpec) :
    ∃ clsidInput aliasInput, (ClassSpec.read ole spec.write out).1 =
      { clsid := readAs ole (fromStdString (toStdString spec.clsidInput))
        aliasClsid := readAs ole (toStdString spec.aliasInput)
        clsidInput := clsidInput
        aliasInput := aliasInput
        clsctxCreate := spec.clsctxCreate
        clsctxRegister := spec.clsctxRegister
        regcls := spec.regcls
        regclsExplicit := true } := by
  have hsplit := h.split
  have hclsid := clsidPart_of_getElem ole (fromStdString spec.write)
    (fromStdString (toStdString spec.clsidInput)) 0 (by rw [hsplit]; rfl)
    fun c hc => (h.mem_toStdString (by simp) (mem_fromStdString hc)).1
  have halias := clsidPart_of_getElem ole (fromStdString spec.write)
    (toStdString spec.aliasInput) 1 (by rw [hsplit]; rfl)
    fun c hc => (h.mem_toStdString (by simp) hc).1
  have hcreate := numberPart_of_getElem (fromStdString spec.write) spec.clsctxCreate 2
    (by rw [hsplit]; rfl)
  have hregister := numberPart_of_getElem (fromStdString spec.write) spec.clsctxRegister 3
    (by rw [hsplit]; rfl)
  have hregcls := numberPart_of_getElem (fromStdString spec.write) spec.regcls 4
    (by rw [hsplit]; rfl)
  rw [h.read, fromString_eq, hclsid, halias, hcreate, hregister, hregcls]
  exact ⟨_, _, rfl⟩

/-! ## Specifications of an item -/

/-- The specification of an item, after it has been sanitized any number of times. -/
def sanitized (ole : Ole32) (item : QString) (regcls : List DWORD) : ClassSpec :=
  regcls.foldl sanitize (fromString ole item).1

/-- An alias, once it has its default. -/
def defaulted (aliasClsid clsid : QUuid) : QUuid :=
  if QUuid.isNull aliasClsid then clsid else aliasClsid

theorem defaulted_defaulted (aliasClsid clsid : QUuid) :
    defaulted (defaulted aliasClsid clsid) clsid = defaulted aliasClsid clsid := by
  unfold defaulted
  split_ifs
  · rfl
  · rfl
  · rfl

theorem defaulted_self (clsid : QUuid) : defaulted clsid clsid = clsid := ite_self clsid

theorem defaulted_zero (clsid : QUuid) : defaulted 0 clsid = clsid := if_pos (by decide)

/-- The identifiers are those of the texts, and so is the alias once it has its default. -/
structure FromItem (ole : Ole32) (spec : ClassSpec) : Prop where
  writable : spec.Writable
  clsid : spec.clsid = readAs ole spec.clsidInput
  aliasClsid : defaulted spec.aliasClsid spec.clsid =
    defaulted (readAs ole spec.aliasInput) spec.clsid

/-- The text of a field that is an identifier; the empty one where it is left out. -/
def fieldText (item : QString) (index : Nat) : QString :=
  ((part (QString.split slash item) index).map trimmed).getD []

theorem part_input (ole : Ole32) {item : QString} (hspace : ∀ c ∈ item, isSpace c = false)
    (index : Nat) :
    (∀ c ∈ fieldText item index, isSpace c = false ∧ c ≠ slash) ∧
    (clsidPart ole item index).getD 0 = readAs ole (fieldText item index) := by
  unfold clsidPart fieldText
  cases hpart : part (QString.split slash item) index with
  | none => exact ⟨by simp, rfl⟩
  | some text =>
      obtain ⟨hget, hne⟩ := Option.filter_eq_some_iff.mp hpart
      have htext : text ∈ QString.split slash item := List.mem_of_getElem? hget
      have hclean : ∀ c ∈ text, isSpace c = false ∧ c ≠ slash := fun c hc =>
        ⟨hspace c (mem_split htext hc).1, (mem_split htext hc).2⟩
      rw [Option.map_some, Option.getD_some, Option.bind_some,
        trimmed_eq_self fun c hc => (hclean c hc).1, readAs, if_neg (by simpa using hne)]
      exact ⟨hclean, rfl⟩

theorem fromItem_fromString (ole : Ole32) {item : QString}
    (hspace : ∀ c ∈ item, isSpace c = false) : FromItem ole (fromString ole item).1 := by
  obtain ⟨hclsid, hclsidPart⟩ := part_input ole hspace 0
  obtain ⟨halias, haliasPart⟩ := part_input ole hspace 1
  rw [fromString_eq]
  refine ⟨?_, hclsidPart, congrArg (defaulted · _) haliasPart⟩
  simp only [Writable, List.forall_mem_cons]
  exact ⟨hclsid, halias, by simp⟩

theorem Writable.sanitize {spec : ClassSpec} (h : spec.Writable) (regcls : DWORD) :
    (spec.sanitize regcls).Writable := by
  unfold Writable at h ⊢
  simp only [List.forall_mem_cons] at h
  obtain ⟨hclsid, halias, -⟩ := h
  rw [sanitize_clsidInput, sanitize_aliasInput]
  simp only [List.forall_mem_cons]
  refine ⟨hclsid, ?_, by simp⟩
  split_ifs
  · exact hclsid
  · exact halias

theorem FromItem.sanitize {ole : Ole32} {spec : ClassSpec} (h : FromItem ole spec)
    (regcls : DWORD) : FromItem ole (spec.sanitize regcls) := by
  obtain ⟨hwritable, hclsid, halias⟩ := h
  refine ⟨hwritable.sanitize regcls, ?_, ?_⟩
  · rw [sanitize_clsid, sanitize_clsidInput, hclsid]
  · rw [sanitize_aliasClsid, sanitize_clsid, sanitize_aliasInput]
    refine (defaulted_defaulted spec.aliasClsid spec.clsid).trans ?_
    rw [halias]
    by_cases hempty : spec.aliasInput.isEmpty = true
    · -- an empty alias takes the text of the source, and with it its identifier
      rw [if_pos hempty, ← hclsid, defaulted_self, readAs, if_pos hempty, defaulted_zero]
    · rw [if_neg hempty]

theorem fromItem_sanitized (ole : Ole32) {item : QString}
    (hspace : ∀ c ∈ item, isSpace c = false) (regcls : List DWORD) :
    FromItem ole (sanitized ole item regcls) := by
  unfold sanitized
  induction regcls using List.reverseRecOn with
  | nil => exact fromItem_fromString ole hspace
  | append_singleton regcls last ih =>
      rw [List.foldl_append]
      exact ih.sanitize last

/-- The flags of an item that has none, under the global ones. -/
def defaultRegcls (regcls : DWORD) : DWORD :=
  if regcls = 0 then REGCLS_SINGLEUSE ||| REGCLS_MULTI_SEPARATE else regcls

theorem sanitize_regcls (spec : ClassSpec) (regcls : DWORD) : (spec.sanitize regcls).regcls =
    if spec.regclsExplicit then spec.regcls else defaultRegcls regcls := by
  unfold sanitize defaultRegcls
  grind

theorem sanitized_regcls (ole : Ole32) (item : QString) (regcls : List DWORD) :
    (sanitized ole item regcls).regclsExplicit = (numberPart item 4).isSome ∧
      (sanitized ole item regcls).regcls =
        (numberPart item 4).getD ((regcls.getLast?.map defaultRegcls).getD 0) := by
  unfold sanitized
  induction regcls using List.reverseRecOn with
  | nil =>
      rw [List.foldl_nil, fromString_eq]
      exact ⟨rfl, rfl⟩
  | append_singleton regcls last ih =>
      rw [List.foldl_append, List.foldl_cons, List.foldl_nil, sanitize_regclsExplicit,
        sanitize_regcls, ih.1, ih.2, List.getLast?_concat]
      refine ⟨rfl, ?_⟩
      cases numberPart item 4 with
      | none => rfl
      | some value => rfl

/-! ## The round trip -/

/-- What is written and read back is the same specification under the global flags. -/
def RoundTrips (ole : Ole32) (spec : ClassSpec) (regcls : DWORD) (out : ClassSpec) : Prop :=
  let back := (read ole spec.write out).1.sanitize regcls
  back.clsid = (spec.sanitize regcls).clsid ∧
    back.aliasClsid = (spec.sanitize regcls).aliasClsid ∧
    back.clsctxCreate = (spec.sanitize regcls).clsctxCreate ∧
    back.clsctxRegister = (spec.sanitize regcls).clsctxRegister ∧
    back.regcls = (spec.sanitize regcls).regcls

instance (ole : Ole32) (spec : ClassSpec) (regcls : DWORD) (out : ClassSpec) :
    Decidable (RoundTrips ole spec regcls out) :=
  inferInstanceAs (Decidable (_ ∧ _ ∧ _ ∧ _ ∧ _))

/-- The identifiers come back, and the flags are the same that are written. -/
theorem FromItem.reads_back_iff {ole : Ole32} {spec : ClassSpec} (h : FromItem ole spec)
    (regcls : DWORD) (out : ClassSpec) : RoundTrips ole spec regcls out ↔
      (readAs ole (fromStdString (toStdString spec.clsidInput)) = spec.clsid ∧
        defaulted (readAs ole (toStdString spec.aliasInput)) spec.clsid =
          defaulted (readAs ole spec.aliasInput) spec.clsid) ∧
        spec.regcls = (spec.sanitize regcls).regcls := by
  obtain ⟨clsidInput, aliasInput, hback⟩ := h.writable.read_write ole out
  unfold RoundTrips
  dsimp only
  rw [hback, sanitize_clsid, sanitize_aliasClsid, sanitize_clsctxCreate, sanitize_clsctxRegister,
    sanitize_regcls_explicit rfl]
  dsimp only
  simp only [sanitize_clsid, sanitize_aliasClsid, sanitize_clsctxCreate, sanitize_clsctxRegister,
    true_and]
  rw [and_assoc]
  refine and_congr_right fun hclsid => and_congr_left fun _ => ?_
  rw [hclsid, ← h.aliasClsid]
  rfl

/-- The text of the alias that is written: sanitizing puts that of the class in place of none. -/
def aliasText (item : QString) (sanitizings : List DWORD) : QString :=
  if sanitizings ≠ [] ∧ fieldText item 1 = [] then fieldText item 0 else fieldText item 1

/-- The texts are read as the same identifiers again, the first without a byte order mark, and both
with a question mark for each lone surrogate. -/
structure TextsKept (ole : Ole32) (item : QString) (sanitizings : List DWORD) : Prop where
  clsid : readAs ole (fromStdString (toStdString (fieldText item 0))) =
    readAs ole (fieldText item 0)
  aliasClsid :
    defaulted (readAs ole (toStdString (aliasText item sanitizings)))
        (readAs ole (fieldText item 0)) =
      defaulted (readAs ole (aliasText item sanitizings)) (readAs ole (fieldText item 0))

theorem fromStdString_eq_self {text : QString} (h : byteOrderMark ∉ text) :
    fromStdString text = text := if_neg fun hmark => h (List.mem_of_mem_head? hmark)

theorem mem_fieldText {item : QString} {index : Nat} (hspace : ∀ c ∈ item, isSpace c = false)
    {c : QChar} (hc : c ∈ fieldText item index) : c ∈ item := by
  unfold fieldText at hc
  cases hpart : part (QString.split slash item) index with
  | none => simp [hpart] at hc
  | some text =>
      have htext : text ∈ QString.split slash item :=
        List.mem_of_getElem? (Option.filter_eq_some_iff.mp hpart).1
      rw [hpart, Option.map_some, Option.getD_some,
        trimmed_eq_self fun c hc => hspace c (mem_split htext hc).1] at hc
      exact (mem_split htext hc).1

/-- Texts are kept where there are neither surrogates nor byte order marks. -/
theorem textsKept_of_plain (ole : Ole32) {item : QString} (hspace : ∀ c ∈ item, isSpace c = false)
    (hplain : ∀ c ∈ item, isSurrogate c = false ∧ c ≠ byteOrderMark) (sanitizings : List DWORD) :
    TextsKept ole item sanitizings := by
  have hencoded (index : Nat) : toStdString (fieldText item index) = fieldText item index :=
    toStdString_eq_self fun c hc => (hplain c (mem_fieldText hspace hc)).1
  have hunmarked : fromStdString (fieldText item 0) = fieldText item 0 :=
    fromStdString_eq_self fun hmark => (hplain _ (mem_fieldText hspace hmark)).2 rfl
  refine ⟨by rw [hencoded, hunmarked], ?_⟩
  unfold aliasText
  split_ifs
  · rw [hencoded]
  · rw [hencoded]

/-- The flags are written, or have been set to what they would be set to again. -/
def RegclsKept (item : QString) (sanitizings : List DWORD) (regcls : DWORD) : Prop :=
  (numberPart item 4).isSome = true ∨
    sanitizings.getLast?.map defaultRegcls = some (defaultRegcls regcls)

theorem defaultRegcls_ne_zero (regcls : DWORD) : defaultRegcls regcls ≠ 0 := by
  unfold defaultRegcls
  split_ifs with hzero
  · decide
  · exact hzero

theorem sanitized_inputs (ole : Ole32) (item : QString) (sanitizings : List DWORD) :
    (sanitized ole item sanitizings).clsidInput = fieldText item 0 ∧
      (sanitized ole item sanitizings).aliasInput = aliasText item sanitizings := by
  unfold sanitized aliasText
  induction sanitizings using List.reverseRecOn with
  | nil =>
      rw [List.foldl_nil, fromString_eq, if_neg (by simp)]
      exact ⟨rfl, rfl⟩
  | append_singleton sanitizings last ih =>
      rw [List.foldl_append, List.foldl_cons, List.foldl_nil, sanitize_clsidInput,
        sanitize_aliasInput, ih.1, ih.2]
      refine ⟨rfl, ?_⟩
      by_cases hnone : fieldText item 1 = []
      · by_cases hclsid : fieldText item 0 = [] <;> simp [hnone, hclsid]
      · simp [hnone]

theorem roundTrips_iff (ole : Ole32) (item : QString) (hspace : ∀ c ∈ item, isSpace c = false)
    (sanitizings : List DWORD) (regcls : DWORD) (out : ClassSpec) :
    RoundTrips ole (sanitized ole item sanitizings) regcls out ↔
      TextsKept ole item sanitizings ∧ RegclsKept item sanitizings regcls := by
  have hitem := fromItem_sanitized ole hspace sanitizings
  obtain ⟨hclsidInput, haliasInput⟩ := sanitized_inputs ole item sanitizings
  rw [hitem.reads_back_iff, hitem.clsid, hclsidInput, haliasInput]
  refine and_congr ⟨fun h => ⟨h.1, h.2⟩, fun h => ⟨h.clsid, h.aliasClsid⟩⟩ ?_
  obtain ⟨hexplicit, hregcls⟩ := sanitized_regcls ole item sanitizings
  rw [sanitize_regcls, hexplicit, hregcls, RegclsKept]
  cases numberPart item 4 with
  | some value => simp
  | none =>
      cases sanitizings.getLast? with
      | some last => simp
      | none => simpa using (defaultRegcls_ne_zero regcls).symm

/-- The item of a class with nothing but its identifier. -/
def plainItem : QString := qString "\x7b0002DF01-0000-0000-C000-000000000046\x7d"

theorem isSpace_plainItem : ∀ c ∈ plainItem, isSpace c = false := by
  have hall : plainItem.all (fun c => !isSpace c) = true := by decide
  intro c hc
  simpa using List.all_eq_true.mp hall c hc

theorem roundTrips_iff_plainItem :
    RoundTrips (.ofProgIDs fun _ => none)
        (sanitized (.ofProgIDs fun _ => none) plainItem [REGCLS_MULTIPLEUSE]) REGCLS_MULTIPLEUSE
        {} ↔
      TextsKept (.ofProgIDs fun _ => none) plainItem [REGCLS_MULTIPLEUSE] ∧
        RegclsKept plainItem [REGCLS_MULTIPLEUSE] REGCLS_MULTIPLEUSE :=
  roundTrips_iff (.ofProgIDs fun _ => none) plainItem isSpace_plainItem [REGCLS_MULTIPLEUSE]
    REGCLS_MULTIPLEUSE {}

/-- The flags that were left out are written as zero, which is then explicit. -/
theorem not_roundTrips_plainItem :
    (∀ c ∈ plainItem, isSpace c = false) ∧
      ¬ RoundTrips (.ofProgIDs fun _ => none) (sanitized (.ofProgIDs fun _ => none) plainItem [])
        0 {} := by
  refine ⟨isSpace_plainItem, ?_⟩
  decide +kernel

end ClassSpec

end Axhost
