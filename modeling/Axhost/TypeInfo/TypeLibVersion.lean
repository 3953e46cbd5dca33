import Mathlib.Data.Set.Finite.Lemmas
import Mathlib.Data.Fintype.Prod
import Axhost.Lib.NarrowMax
import Axhost.Platform.Registry

/-!
# The latest version of a type library

`provide_class_info.cc`: `FindLatestTypeLibVersion` goes through the subkeys of a type library,
reads their names as decimal numbers and keeps the greatest pair.  The registry names a version in
hexadecimal, and a name that does not fit the buffer ends the loop.

* `enumVersions_eq`: the loop as a running maximum of the names it gets to;
* `findsLatest_iff`: when it finds the latest version.
-/

namespace Axhost

open NarrowMax

abbrev USHORT := BitVec 16

def ERROR_MORE_DATA : LSTATUS := 234
def ERROR_NO_MORE_ITEMS : LSTATUS := 259
def TYPE_E_LIBNOTREGISTERED : HRESULT := 0x8002801D

/-! ## `swscanf_s` -/

namespace QString

def isDigit (c : QChar) : Bool := 48 ≤ c.toNat && c.toNat ≤ 57

/-- The number that a conversion makes of its digits, in 64 bits: it stops at the greatest one, and
a minus sign takes it from zero. -/
def convert (negative : Bool) (digits : QString) : BitVec 64 :=
  let value := digits.foldl (fun value c => value * 10 + (c.toNat - 48)) 0
  if 2 ^ 64 ≤ value then BitVec.allOnes 64
  else if negative then -BitVec.ofNat 64 value
  else BitVec.ofNat 64 value

/-- `%u`, with what it leaves of the string. -/
def scanUnsigned (s : QString) : Option (DWORD × QString) :=
  let s := s.dropWhile isSpace
  let negative := s.head? = some (qLatin1Char '-')
  let s := if negative ∨ s.head? = some (qLatin1Char '+') then s.tail else s
  let digits := s.takeWhile isDigit
  if digits.isEmpty then none
  else some ((convert negative digits).setWidth 32, s.dropWhile isDigit)

/-- `swscanf_s(name, L"%u.%u", &x, &y)`, where both are assigned. -/
def scanVersion (name : QString) : Option (DWORD × DWORD) :=
  match scanUnsigned name with
  | some (x, c :: s) =>
    if c = qLatin1Char '.' then (scanUnsigned s).map fun (y, _) => (x, y) else none
  | _ => none

end QString

namespace HostProvideClassInfo

open QString

/-- `RegEnumKeyExW` with room for `namelen` characters, the null character included. -/
def regEnumKeyEx (subkeys : List QString) (namelen : Nat) : LSTATUS :=
  match subkeys with
  | [] => ERROR_NO_MORE_ITEMS
  | name :: _ => if namelen ≤ name.length then ERROR_MORE_DATA else ERROR_SUCCESS

/-- What a turn of the loop does to `*pMajor` and `*pMinor`. -/
def takeName (best : USHORT × USHORT) (name : QString) : USHORT × USHORT :=
  match scanVersion name with
  | some (x, y) =>
    if best.1.toNat < x.toNat ∨ x.toNat = best.1.toNat ∧ best.2.toNat < y.toNat then
      (x.setWidth 16, y.setWidth 16)
    else best
  | none => best

/-- The loop over the subkeys that are left. -/
def enumVersions (best : USHORT × USHORT) (subkeys : List QString) : USHORT × USHORT :=
  match subkeys with
  | [] => best
  | name :: names =>
    if regEnumKeyEx (name :: names) 64 = ERROR_SUCCESS then enumVersions (takeName best name) names
    else best

/-- `FindLatestTypeLibVersion` on a library with these subkeys, in the order in which they are
enumerated; `openKey` is what opening its key comes to. -/
def findLatestTypeLibVersion (pMajor pMinor : Bool) (stringFromCLSID openKey : HRESULT)
    (subkeys : List QString) : HRESULT × Option (USHORT × USHORT) :=
  if pMajor = false ∨ pMinor = false then (E_POINTER, none)
  else if failed stringFromCLSID then (stringFromCLSID, some (0, 0))
  else if failed openKey then (TYPE_E_LIBNOTREGISTERED, some (0, 0))
  else
    let latest := enumVersions (0, 0) subkeys
    if latest.1 ≠ 0 ∨ latest.2 ≠ 0 then (S_OK, some latest)
    else (TYPE_E_LIBNOTREGISTERED, some latest)

/-! ## The versions of a library -/

/-- The subkey that `RegisterTypeLib` makes for a version. -/
def versionName (v : USHORT × USHORT) : QString :=
  (Nat.toDigits 16 v.1.toNat).map qLatin1Char ++ qLatin1Char '.' ::
    (Nat.toDigits 16 v.2.toNat).map qLatin1Char

def numbers (v : USHORT × USHORT) : ℕ × ℕ := (v.1.toNat, v.2.toNat)

/-- The greatest registered version. -/
def Latest (subkeys : List QString) (v : USHORT × USHORT) : Prop :=
  versionName v ∈ subkeys ∧
    ∀ u, versionName u ∈ subkeys → toLex (numbers u) ≤ toLex (numbers v)

/-- The latest version is found, or that there is none. -/
def FindsLatest (subkeys : List QString) : Prop :=
  ((∃ v, versionName v ∈ subkeys) → ∃ v, Latest subkeys v ∧
    findLatestTypeLibVersion true true S_OK S_OK subkeys = (S_OK, some v)) ∧
  ((∀ v, versionName v ∉ subkeys) →
    (findLatestTypeLibVersion true true S_OK S_OK subkeys).1 = TYPE_E_LIBNOTREGISTERED)

theorem numbers_injective : Function.Injective numbers := by
  intro u v h
  obtain ⟨hmajor, hminor⟩ := Prod.mk.inj h
  exact Prod.ext (BitVec.eq_of_toNat_eq hmajor) (BitVec.eq_of_toNat_eq hminor)

theorem Latest.unique {subkeys : List QString} {u v : USHORT × USHORT} (hu : Latest subkeys u)
    (hv : Latest subkeys v) : u = v :=
  numbers_injective (toLex.injective (le_antisymm (hv.2 u hu.1) (hu.2 v hv.1)))

theorem exists_latest {subkeys : List QString} (h : ∃ v, versionName v ∈ subkeys) :
    ∃ v, Latest subkeys v := by
  have hfinite : Finite (USHORT × USHORT) := by
    refine Finite.of_injective (fun v : USHORT × USHORT => (v.1.toFin, v.2.toFin)) ?_
    intro u v heq
    obtain ⟨hmajor, hminor⟩ := Prod.mk.inj heq
    exact Prod.ext (BitVec.toFin_inj.mp hmajor) (BitVec.toFin_inj.mp hminor)
  obtain ⟨v, hv, hmax⟩ := Set.exists_max_image {v | versionName v ∈ subkeys}
    (fun v => toLex (numbers v)) (Set.toFinite _) h
  exact ⟨v, hv, hmax⟩

/-! ## What the loop reads -/

/-- The numbers of the names that the loop gets to, the latest first. -/
def readings (subkeys : List QString) : List (ℕ × ℕ) :=
  ((subkeys.takeWhile fun name => name.length < 64).filterMap fun name =>
    (scanVersion name).map fun (x, y) => (x.toNat, y.toNat)).reverse

theorem numbers_takeName (best : USHORT × USHORT) (name : QString) :
    numbers (takeName best name) = ((scanVersion name).map fun (x, y) =>
      keep (2 ^ 16) (numbers best) (x.toNat, y.toNat)).getD (numbers best) := by
  unfold takeName
  cases scanVersion name with
  | none => rfl
  | some r =>
      obtain ⟨x, y⟩ := r
      simp only [Option.map_some, Option.getD_some, keep, Prod.Lex.toLex_lt_toLex, numbers]
      split_ifs with hnew hkeep hkeep
      · simp [narrow]
      · omega
      · omega
      · rfl

/-- The loop keeps the running maximum of what it reads, cut down to 16 bits. -/
theorem enumVersions_eq (subkeys : List QString) (best : USHORT × USHORT)
    (rs : List (ℕ × ℕ)) (hbest : numbers best = kept (2 ^ 16) rs) :
    numbers (enumVersions best subkeys) = kept (2 ^ 16) (readings subkeys ++ rs) := by
  induction subkeys generalizing best rs with
  | nil => exact hbest
  | cons name names ih =>
      rw [enumVersions, regEnumKeyEx]
      by_cases hlong : 64 ≤ name.length
      · rw [if_pos hlong, if_neg (by decide), readings, List.takeWhile_cons_of_neg (by simpa)]
        exact hbest
      · rw [if_neg hlong, if_pos rfl]
        have hshort : name.length < 64 := by omega
        have hname := numbers_takeName best name
        unfold readings at ih ⊢
        rw [List.takeWhile_cons_of_pos (by simpa using hshort)]
        cases hscan : scanVersion name with
        | none =>
            rw [hscan] at hname
            rw [List.filterMap_cons_none (by simp [hscan])]
            exact ih (takeName best name) rs (hname.trans hbest)
        | some r =>
            rw [hscan] at hname
            rw [List.filterMap_cons_some (b := (r.1.toNat, r.2.toNat)) (by simp [hscan]),
              List.reverse_cons, List.append_assoc]
            refine ih (takeName best name) ((r.1.toNat, r.2.toNat) :: rs) ?_
            rw [kept, ← hbest]
            exact hname

theorem enumVersions_eq_iff (subkeys : List QString) (v : USHORT × USHORT) :
    enumVersions (0, 0) subkeys = v ↔ Settles (2 ^ 16) (numbers v) (readings subkeys) := by
  have heq := enumVersions_eq subkeys (0, 0) [] rfl
  rw [List.append_nil] at heq
  rw [← kept_eq_iff ⟨v.1.isLt, v.2.isLt⟩, ← heq]
  exact numbers_injective.eq_iff.symm

theorem findLatestTypeLibVersion_eq (subkeys : List QString) :
    findLatestTypeLibVersion true true S_OK S_OK subkeys =
      (if enumVersions (0, 0) subkeys = (0, 0) then TYPE_E_LIBNOTREGISTERED else S_OK,
        some (enumVersions (0, 0) subkeys)) := by
  unfold findLatestTypeLibVersion
  rw [if_neg (by simp), if_neg (by decide), if_neg (by decide)]
  generalize enumVersions (0, 0) subkeys = latest
  dsimp only
  by_cases hzero : latest = (0, 0)
  · rw [if_neg (by simp [hzero]), if_pos hzero]
  · have hsome : latest.1 ≠ 0 ∨ latest.2 ≠ 0 := by
      by_contra hnone
      simp only [ne_eq, not_or, not_not] at hnone
      exact hzero (Prod.ext hnone.1 hnone.2)
    rw [if_pos hsome, if_neg hzero]

theorem finds_iff (subkeys : List QString) (v : USHORT × USHORT) :
    findLatestTypeLibVersion true true S_OK S_OK subkeys = (S_OK, some v) ↔
      v ≠ (0, 0) ∧ Settles (2 ^ 16) (numbers v) (readings subkeys) := by
  rw [findLatestTypeLibVersion_eq, ← enumVersions_eq_iff]
  constructor
  · intro h
    obtain ⟨hok, hv⟩ := Prod.mk.inj h
    obtain rfl := Option.some.inj hv
    refine ⟨fun hzero => ?_, rfl⟩
    rw [if_pos hzero] at hok
    exact absurd hok (by decide)
  · rintro ⟨hne, rfl⟩
    rw [if_neg hne]

theorem finds_none_iff (subkeys : List QString) :
    (findLatestTypeLibVersion true true S_OK S_OK subkeys).1 = TYPE_E_LIBNOTREGISTERED ↔
      Settles (2 ^ 16) (0, 0) (readings subkeys) := by
  have hzero := enumVersions_eq_iff subkeys (0, 0)
  rw [findLatestTypeLibVersion_eq, show ((0, 0) : ℕ × ℕ) = numbers (0, 0) from rfl, ← hzero]
  by_cases hnone : enumVersions (0, 0) subkeys = (0, 0)
  · exact iff_of_true (if_pos hnone) hnone
  · refine iff_of_false ?_ hnone
    rw [if_neg hnone]
    show ¬ S_OK = TYPE_E_LIBNOTREGISTERED
    decide

/-- The latest version is found exactly when the names that come before the first one of 64
characters settle at it, read as decimal numbers, and it is not version 0.0; and none is found
exactly when they settle at 0.0. -/
theorem findsLatest_iff (subkeys : List QString) : FindsLatest subkeys ↔
    (∀ v, Latest subkeys v →
      v ≠ (0, 0) ∧ Settles (2 ^ 16) (numbers v) (readings subkeys)) ∧
    ((∀ v, versionName v ∉ subkeys) → Settles (2 ^ 16) (0, 0) (readings subkeys)) := by
  unfold FindsLatest
  rw [finds_none_iff]
  refine and_congr ⟨fun h v hv => ?_, fun h hsome => ?_⟩ Iff.rfl
  · obtain ⟨u, hu, hfinds⟩ := h ⟨v, hv.1⟩
    obtain rfl := hu.unique hv
    exact (finds_iff subkeys u).mp hfinds
  · obtain ⟨v, hv⟩ := exists_latest hsome
    exact ⟨v, hv, (finds_iff subkeys v).mpr (h v hv)⟩

/-- Version 1.10 has the name `1.a`, which is not read. -/
theorem not_findsLatest_hexadecimal : ¬ FindsLatest [qString "1.9", qString "1.a"] := by
  rintro ⟨hlatest, -⟩
  obtain ⟨v, ⟨-, hmax⟩, hfinds⟩ := hlatest ⟨(1, 9), by decide⟩
  have hresult : findLatestTypeLibVersion true true S_OK S_OK [qString "1.9", qString "1.a"] =
    (S_OK, some (1, 9)) := by decide
  obtain rfl : (1, 9) = v := Option.some.inj (Prod.mk.inj (hresult.symm.trans hfinds)).2
  have hle := hmax (1, 10) (by decide)
  exact absurd hle (by decide)

end HostProvideClassInfo

end Axhost
