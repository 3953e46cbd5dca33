import Axhost.Lib.FixedDigits
import Axhost.Platform.Windows

/-!
# Class identifiers and their texts

The registry form is read in either letter case, and `QUuid::toString` writes it in one.

* `QUuid.ofRegistryForm_toString`: what is written is read back;
* `QUuid.ofRegistryForm_iff`: nothing else is read, but for its case.
-/

namespace Axhost

namespace QString

/-! ## Letter case -/

/-- `QString::toLower` on the letters of ASCII. -/
def lowerChar (c : QChar) : QChar := if 65 ≤ c.toNat ∧ c.toNat ≤ 90 then c + 32 else c

def upperChar (c : QChar) : QChar := if 97 ≤ c.toNat ∧ c.toNat ≤ 122 then c - 32 else c

def toLower (s : QString) : QString := s.map lowerChar

def toUpper (s : QString) : QString := s.map upperChar

theorem toNat_lowerChar (c : QChar) : (lowerChar c).toNat =
    if 65 ≤ c.toNat ∧ c.toNat ≤ 90 then c.toNat + 32 else c.toNat := by
  unfold lowerChar
  split_ifs with h
  · rw [UInt16.toNat_add, Nat.mod_eq_of_lt]
    · rfl
    · have htwo : (32 : QChar).toNat = 32 := rfl
      omega
  · rfl

theorem toNat_upperChar (c : QChar) : (upperChar c).toNat =
    if 97 ≤ c.toNat ∧ c.toNat ≤ 122 then c.toNat - 32 else c.toNat := by
  unfold upperChar
  split_ifs with h
  · exact UInt16.toNat_sub_of_le _ _ (by
      rw [UInt16.le_iff_toNat_le]
      have htwo : (32 : QChar).toNat = 32 := rfl
      omega)
  · rfl

theorem lowerChar_upperChar (c : QChar) : lowerChar (upperChar c) = lowerChar c := by
  rw [← UInt16.toNat_inj, toNat_lowerChar, toNat_lowerChar, toNat_upperChar]
  split_ifs <;> omega

theorem upperChar_lowerChar (c : QChar) : upperChar (lowerChar c) = upperChar c := by
  rw [← UInt16.toNat_inj, toNat_upperChar, toNat_upperChar, toNat_lowerChar]
  split_ifs <;> omega

@[simp] theorem toLower_toUpper (s : QString) : toLower (toUpper s) = toLower s := by
  simp [toLower, toUpper, lowerChar_upperChar]

@[simp] theorem toUpper_toLower (s : QString) : toUpper (toLower s) = toUpper s := by
  simp [toLower, toUpper, upperChar_lowerChar]

theorem digitValue_lowerChar (c : QChar) : digitValue (lowerChar c) = digitValue c := by
  unfold digitValue
  rw [toNat_lowerChar]
  dsimp only
  split_ifs <;> first | omega | congr 1

/-! ## Digits -/

theorem digitValue_lt {c : QChar} {digit : Nat} (h : digitValue c = some digit) : digit < 16 := by
  unfold digitValue at h
  dsimp only at h
  split_ifs at h <;> (have hdigit := Option.some.inj h; omega)

theorem toNat_digitChar {digit : Nat} (h : digit < 16) :
    (qLatin1Char (Nat.digitChar digit)).toNat = if digit < 10 then 48 + digit else 87 + digit := by
  have hall : (List.range 16).all fun d =>
      (qLatin1Char (Nat.digitChar d)).toNat == if d < 10 then 48 + d else 87 + d := by decide
  simpa using List.all_eq_true.mp hall digit (List.mem_range.mpr h)

theorem digitValue_of_digitChar {digit : Nat} (h : digit < 16) :
    digitValue (qLatin1Char (Nat.digitChar digit)) = some digit := by
  unfold digitValue
  rw [toNat_digitChar h]
  dsimp only
  split_ifs <;> first | omega | (congr 1; omega)

theorem lowerChar_of_digitValue {c : QChar} {digit : Nat} (h : digitValue c = some digit) :
    lowerChar c = qLatin1Char (Nat.digitChar digit) := by
  have hlt := digitValue_lt h
  rw [← UInt16.toNat_inj, toNat_lowerChar, toNat_digitChar hlt]
  unfold digitValue at h
  dsimp only at h
  split_ifs at h <;> (have hdigit := Option.some.inj h; split_ifs <;> omega)

theorem digitsFrom_eq_some {value result : Nat} {s : QString} :
    digitsFrom 16 value s = some result ↔ ∃ ds : List Nat, s.map digitValue = ds.map some ∧
      result = ds.foldl (fun v d => v * 16 + d) value := by
  induction s generalizing value with
  | nil =>
      rw [digitsFrom]
      constructor
      · intro h
        exact ⟨[], rfl, (Option.some.inj h).symm⟩
      · rintro ⟨ds, hds, rfl⟩
        obtain rfl := List.map_eq_nil_iff.mp hds.symm
        rfl
  | cons c s ih =>
      rw [digitsFrom]
      cases hc : digitValue c with
      | none =>
          refine iff_of_false (by simp) ?_
          rintro ⟨_ | ⟨d, ds⟩, hds, -⟩ <;> simp [hc] at hds
      | some digit =>
          dsimp only
          rw [if_pos (digitValue_lt hc), ih]
          constructor
          · rintro ⟨ds, hds, rfl⟩
            exact ⟨digit :: ds, by simp [hc, hds], rfl⟩
          · rintro ⟨_ | ⟨d, ds⟩, hds, rfl⟩
            · simp at hds
            · obtain ⟨hd, hrest⟩ := List.cons.inj hds
              rw [hc] at hd
              obtain rfl := Option.some.inj hd
              exact ⟨ds, hrest, rfl⟩

end QString

namespace QUuid

open QString

/-! ## The registry form -/

/-- A form with digits in its places. -/
def fillForm : List (Option QChar) → QString → QString
  | some c :: form, ds => c :: fillForm form ds
  | none :: form, d :: ds => d :: fillForm form ds
  | none :: _, [] => []
  | [], _ => []

theorem fillForm_of_readForm {form : List (Option QChar)} {s ds : QString}
    (h : readForm form s = some ds) : s = fillForm form ds ∧ ds.length = form.count none := by
  induction form generalizing s ds with
  | nil =>
      cases s with
      | nil =>
          obtain rfl : [] = ds := by simpa [readForm] using h
          exact ⟨rfl, rfl⟩
      | cons d s => simp [readForm] at h
  | cons expected form ih =>
      cases s with
      | nil => cases expected <;> simp [readForm] at h
      | cons d s =>
          cases expected with
          | some c =>
              rw [readForm] at h
              obtain ⟨rfl, hrest⟩ := Option.ite_none_right_eq_some.mp h
              obtain ⟨hs, hlength⟩ := ih hrest
              exact ⟨by rw [fillForm, ← hs], by simp [hlength]⟩
          | none =>
              rw [readForm] at h
              split at h
              · next digits _ hrest =>
                obtain rfl := Option.some.inj h
                obtain ⟨hs, hlength⟩ := ih hrest
                exact ⟨by rw [fillForm, ← hs], by simp [hlength]⟩
              · exact absurd h (by simp)

theorem length_of_readForm {form : List (Option QChar)} {s ds : QString}
    (h : readForm form s = some ds) : s.length = form.length := by
  induction form generalizing s ds with
  | nil =>
      cases s with
      | nil => rfl
      | cons d s => simp [readForm] at h
  | cons expected form ih =>
      cases s with
      | nil => cases expected <;> simp [readForm] at h
      | cons d s =>
          cases expected with
          | some c =>
              obtain ⟨-, hrest⟩ := Option.ite_none_right_eq_some.mp h
              exact congrArg (· + 1) (ih hrest)
          | none =>
              rw [readForm] at h
              split at h
              · next digits _ hrest => exact congrArg (· + 1) (ih hrest)
              · exact absurd h (by simp)

theorem length_of_ofRegistryForm {s : QString} {u : QUuid} (h : ofRegistryForm s = some u) :
    s.length = registryForm.length := by
  obtain ⟨ds, hform, -⟩ := Option.bind_eq_some_iff.mp h
  exact length_of_readForm hform

theorem readForm_fillForm {form : List (Option QChar)} {ds : QString}
    (hlength : ds.length = form.count none) (hdigits : ∀ d ∈ ds, (digitValue d).isSome) :
    readForm form (fillForm form ds) = some ds := by
  induction form generalizing ds with
  | nil =>
      obtain rfl := List.length_eq_zero_iff.mp hlength
      rfl
  | cons expected form ih =>
      cases expected with
      | some c =>
          rw [fillForm, readForm, if_pos rfl]
          exact ih (by simpa using hlength) hdigits
      | none =>
          cases ds with
          | nil => simp at hlength
          | cons d ds =>
              rw [List.forall_mem_cons] at hdigits
              obtain ⟨digit, hdigit⟩ := Option.isSome_iff_exists.mp hdigits.1
              rw [fillForm, readForm, hdigit, ih (by simpa using hlength) hdigits.2]

/-- No letter of either case is a literal character of the form. -/
theorem lowerChar_eq_iff (c : QChar) (h : some c ∈ registryForm) (d : QChar) :
    lowerChar d = c ↔ d = c := by
  have hliteral : (registryForm.filterMap id).all fun c =>
      c.toNat < 65 || (90 < c.toNat && c.toNat < 97) || 122 < c.toNat := by decide
  have hc := List.all_eq_true.mp hliteral c (List.mem_filterMap.mpr ⟨some c, h, rfl⟩)
  simp only [Bool.or_eq_true, Bool.and_eq_true, decide_eq_true_eq] at hc
  rw [← UInt16.toNat_inj, ← UInt16.toNat_inj, toNat_lowerChar]
  split_ifs <;> omega

theorem toLower_fillForm {form : List (Option QChar)} (hform : ∀ c, some c ∈ form → lowerChar c = c)
    (ds : QString) : toLower (fillForm form ds) = fillForm form (toLower ds) := by
  induction form generalizing ds with
  | nil => rfl
  | cons expected form ih =>
      have hrest := ih fun c hc => hform c (List.mem_cons_of_mem _ hc)
      cases expected with
      | some c =>
          have hc := hform c List.mem_cons_self
          exact congrArg₂ List.cons hc (hrest ds)
      | none =>
          cases ds with
          | nil => rfl
          | cons d ds => exact congrArg _ (hrest ds)

/-- The digits that an identifier is written with. -/
def writtenDigits (u : QUuid) : QString :=
  (FixedDigits.digits 16 32 u.toNat).map fun d => qLatin1Char (Nat.digitChar d)

theorem toString_eq (u : QUuid) : toString u = fillForm registryForm (writtenDigits u) := by
  unfold toString writtenDigits FixedDigits.digits
  rw [List.map_map]
  rfl

theorem digits_toNat_lt (u : QUuid) : ∀ d ∈ FixedDigits.digits 16 32 u.toNat, d < 16 :=
  FixedDigits.digits_lt (by decide) 32 u.toNat

theorem digitValue_writtenDigits (u : QUuid) :
    (writtenDigits u).map digitValue = (FixedDigits.digits 16 32 u.toNat).map some := by
  unfold writtenDigits
  rw [List.map_map]
  exact List.map_congr_left fun d hd => digitValue_of_digitChar (digits_toNat_lt u d hd)

theorem digitsValue_of_map {ds : QString} {vs : List Nat} (hne : ds ≠ [])
    (h : ds.map digitValue = vs.map some) : digitsValue 16 ds = some (FixedDigits.value 16 vs) := by
  unfold digitsValue
  rw [if_neg (by simpa using hne)]
  exact digitsFrom_eq_some.mpr ⟨vs, h, rfl⟩

theorem map_of_digitsValue {ds : QString} {value : Nat} (h : digitsValue 16 ds = some value) :
    ∃ vs : List Nat, ds.map digitValue = vs.map some ∧ (∀ v ∈ vs, v < 16) ∧
      value = FixedDigits.value 16 vs := by
  unfold digitsValue at h
  obtain ⟨-, hfrom⟩ := Option.ite_none_left_eq_some.mp h
  obtain ⟨vs, hvs, rfl⟩ := digitsFrom_eq_some.mp hfrom
  refine ⟨vs, hvs, fun v hv => ?_, rfl⟩
  obtain ⟨c, -, hc⟩ := List.mem_map.mp (hvs ▸ List.mem_map_of_mem (f := some) hv)
  exact digitValue_lt hc

theorem ofRegistryForm_eq_some {s : QString} {u : QUuid} :
    ofRegistryForm s = some u ↔ ∃ ds, readForm registryForm s = some ds ∧
      ds.map digitValue = (FixedDigits.digits 16 32 u.toNat).map some := by
  have hfits : (16 : Nat) ^ 32 = 2 ^ 128 := by norm_num
  constructor
  · intro h
    obtain ⟨ds, hform, h⟩ := Option.bind_eq_some_iff.mp h
    obtain ⟨value, hvalue, h⟩ := Option.bind_eq_some_iff.mp h
    obtain rfl := Option.some.inj h
    obtain ⟨vs, hvs, hlt, rfl⟩ := map_of_digitsValue hvalue
    have hlength : vs.length = 32 := by
      have hds := (fillForm_of_readForm hform).2
      have hmap := congrArg List.length hvs
      rw [List.length_map, List.length_map] at hmap
      exact hmap.symm.trans (hds.trans (by decide))
    have hvalue : FixedDigits.value 16 vs < 2 ^ 128 := by
      have hbound := FixedDigits.value_lt hlt
      rwa [hlength, hfits] at hbound
    refine ⟨ds, hform, ?_⟩
    rw [BitVec.toNat_ofNat, Nat.mod_eq_of_lt hvalue, ← hlength, FixedDigits.digits_value hlt, hvs]
  · rintro ⟨ds, hform, hds⟩
    have hne : ds ≠ [] := by
      rintro rfl
      have hlength := congrArg List.length hds
      simp at hlength
    have hvalue := digitsValue_of_map hne hds
    rw [FixedDigits.value_digits, hfits, Nat.mod_eq_of_lt u.isLt] at hvalue
    refine Option.bind_eq_some_iff.mpr ⟨ds, hform, Option.bind_eq_some_iff.mpr ⟨_, hvalue, ?_⟩⟩
    rw [BitVec.ofNat_toNat, BitVec.setWidth_eq]

theorem readForm_toString (u : QUuid) :
    readForm registryForm (toString u) = some (writtenDigits u) := by
  rw [toString_eq]
  refine readForm_fillForm ?_ fun d hd => ?_
  · rw [writtenDigits, List.length_map, FixedDigits.length_digits]
    decide
  · have hvalue := List.mem_map_of_mem (f := digitValue) hd
    rw [digitValue_writtenDigits] at hvalue
    obtain ⟨v, -, hv⟩ := List.mem_map.mp hvalue
    exact hv ▸ rfl

theorem ofRegistryForm_toString (u : QUuid) : ofRegistryForm (toString u) = some u :=
  ofRegistryForm_eq_some.mpr ⟨writtenDigits u, readForm_toString u, digitValue_writtenDigits u⟩

/-- Letter case makes no difference to what is read. -/
theorem readForm_toLower {form : List (Option QChar)}
    (hform : ∀ c, some c ∈ form → ∀ d, lowerChar d = c ↔ d = c) (s : QString) :
    readForm form (toLower s) = (readForm form s).map toLower := by
  induction form generalizing s with
  | nil => cases s <;> rfl
  | cons expected form ih =>
      have hrest := ih fun c hc => hform c (List.mem_cons_of_mem _ hc)
      cases s with
      | nil => cases expected <;> rfl
      | cons d s =>
          have hs : toLower (d :: s) = lowerChar d :: toLower s := rfl
          cases expected with
          | some c =>
              simp only [hs, readForm, hform c List.mem_cons_self d, hrest s]
              split_ifs <;> rfl
          | none =>
              simp only [hs, readForm, digitValue_lowerChar, hrest s]
              cases digitValue d <;> cases readForm form s <;> rfl

theorem map_digitValue_toLower (ds : QString) :
    (toLower ds).map digitValue = ds.map digitValue := by
  simp [toLower, digitValue_lowerChar]

theorem toLower_of_map {ds : QString} {vs : List Nat} (h : ds.map digitValue = vs.map some) :
    toLower ds = vs.map fun v => qLatin1Char (Nat.digitChar v) := by
  induction ds generalizing vs with
  | nil =>
      obtain rfl := List.map_eq_nil_iff.mp h.symm
      rfl
  | cons d ds ih =>
      cases vs with
      | nil => simp at h
      | cons v vs =>
          obtain ⟨hd, hrest⟩ := List.cons.inj h
          exact congrArg₂ List.cons (lowerChar_of_digitValue hd) (ih hrest)

/-- A string is read as an identifier when it is, but for its case, what that is written as. -/
theorem ofRegistryForm_iff {s : QString} {u : QUuid} :
    ofRegistryForm s = some u ↔ toLower s = toString u := by
  rw [ofRegistryForm_eq_some]
  constructor
  · rintro ⟨ds, hform, hds⟩
    obtain ⟨rfl, -⟩ := fillForm_of_readForm hform
    rw [toString_eq, toLower_fillForm fun c hc => (lowerChar_eq_iff c hc c).mpr rfl,
      toLower_of_map hds]
    rfl
  · intro h
    have hread := readForm_toLower lowerChar_eq_iff s
    rw [h, readForm_toString] at hread
    obtain ⟨ds, hform, hds⟩ := Option.map_eq_some_iff.mp hread.symm
    refine ⟨ds, hform, ?_⟩
    rw [← map_digitValue_toLower, hds, digitValue_writtenDigits]

end QUuid

end Axhost
