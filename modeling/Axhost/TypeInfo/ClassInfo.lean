import Axhost.Lib.Ledger
import Axhost.Platform.ClassIdText
import Axhost.TypeInfo.DefaultSource
import Axhost.TypeInfo.TypeLibVersion

/-!
# The class info of a control

`provide_class_info.cc`: `GetClassInfo` and `GetGUID`.  What the control answers comes first; then
the type library that the registry has for its class is loaded, and the coclass and its default
source interface are looked for in it.

* `readTypeLibIdFromCLSID_iff`: when the identifier of the library is read whatever was in the
  buffer before;
* `ClassInfo.getClassInfo_eq_some_iff`: where a type info comes from;
* `ClassInfo.getGUID_spec`: what `GetGUID` comes to, and that it keeps nothing.
-/

namespace Axhost

open Ledger NarrowMax

def GUIDKIND_DEFAULT_SOURCE_DISP_IID : DWORD := 1

/-- What a call hands out, which is nothing where it fails. -/
structure Answer (α : Type*) where
  hr : HRESULT
  value : Option α
  none_of_failed : failed hr = true → value = none

/-- The type libraries, by what the registry and the calls on them come to.  `queryTypeLib` has
what is written to the buffer. -/
structure TypeLibraries extends Ole32 where
  stringFromCLSID : QUuid → HRESULT
  openTypeLib : QUuid → HRESULT
  queryTypeLib : QUuid → LSTATUS × List QChar
  openLibrary : QUuid → HRESULT
  subkeys : QUuid → List QString
  loadRegTypeLib : QUuid → USHORT → USHORT → Answer ℕ
  getTypeInfoOfGuid : ℕ → QUuid → Answer ℕ
  coClass : ℕ → CoClassTypeInfo

namespace HostProvideClassInfo

open QString

/-! ## The library of a class -/

/-- `stale` is what the memory has from the buffer on; the value is written over its beginning. -/
def readTypeLibIdFromCLSID (libs : TypeLibraries) (stale : List QChar) (rclsid : QUuid)
    (pLibid : Bool) : HRESULT × Option QUuid :=
  if pLibid = false then (E_POINTER, none)
  else if failed (libs.stringFromCLSID rclsid) then (libs.stringFromCLSID rclsid, none)
  else if failed (libs.openTypeLib rclsid) then (libs.openTypeLib rclsid, none)
  else
    let (rc, data) := libs.queryTypeLib rclsid
    if rc ≠ ERROR_SUCCESS then (HRESULT_FROM_WIN32 rc, none)
    else match libs.clsidFromString (cStr (data ++ stale.drop data.length)) with
      | .error hr => (hr, none)
      | .ok libid => (S_OK, some libid)

def getTypeLibFromCLSID (libs : TypeLibraries) (stale : List QChar) (rclsid : QUuid)
    (ppTL : Bool) : HRESULT × Option ℕ :=
  if ppTL = false then (E_POINTER, none)
  else match readTypeLibIdFromCLSID libs stale rclsid true with
    | (hr, none) => (hr, none)
    | (_, some libid) =>
      let (hr, latest) := findLatestTypeLibVersion true true (libs.stringFromCLSID libid)
        (libs.openLibrary libid) (libs.subkeys libid)
      if failed hr then (hr, none)
      else
        let (maj, min) := latest.getD (0, 0)
        let loaded := libs.loadRegTypeLib libid maj min
        (loaded.hr, loaded.value)

theorem cStr_of_terminated {data : List QChar} (h : 0 ∈ data) (more : List QChar) :
    cStr (data ++ more) = cStr data := by
  unfold cStr
  rw [List.takeWhile_append, if_neg]
  intro hall
  have heq := (List.takeWhile_sublist _).eq_of_length hall
  rw [List.takeWhile_eq_self_iff] at heq
  simpa using heq 0 h

theorem cStr_of_braced {data : List QChar} {brace : QChar}
    (h : (cStr data).head? = some brace) (more : List QChar) :
    (cStr (data ++ more)).head? = some brace := by
  cases data with
  | nil => simp [cStr] at h
  | cons c data =>
      have hc : c ≠ 0 := by
        rintro rfl
        simp [cStr] at h
      have hhead (rest : List QChar) : (cStr (c :: rest)).head? = some c := by
        simp [cStr, hc]
      rw [List.cons_append, hhead]
      rwa [hhead] at h

/-- The value of the registry is a library in the registry form.  It is read, whatever was in the
buffer before, exactly when the value has its null character with it. -/
theorem readTypeLibIdFromCLSID_iff (libs : TypeLibraries) {rclsid libid : QUuid}
    (hstring : failed (libs.stringFromCLSID rclsid) = false)
    (hopen : failed (libs.openTypeLib rclsid) = false)
    (hquery : (libs.queryTypeLib rclsid).1 = ERROR_SUCCESS)
    (hnames : QUuid.ofRegistryForm (cStr (libs.queryTypeLib rclsid).2) = some libid) :
    (∀ stale, readTypeLibIdFromCLSID libs stale rclsid true = (S_OK, some libid)) ↔
      0 ∈ (libs.queryTypeLib rclsid).2 := by
  have hread (stale : List QChar) : readTypeLibIdFromCLSID libs stale rclsid true =
      match libs.clsidFromString (cStr ((libs.queryTypeLib rclsid).2 ++
        stale.drop (libs.queryTypeLib rclsid).2.length)) with
      | .error hr => (hr, none)
      | .ok libid => (S_OK, some libid) := by
    unfold readTypeLibIdFromCLSID
    rw [if_neg (by simp), if_neg (by simp [hstring]), if_neg (by simp [hopen])]
    exact if_neg (not_not.mpr hquery)
  generalize (libs.queryTypeLib rclsid).2 = data at hread hnames ⊢
  constructor
  · intro hall
    by_contra hunterminated
    have hmore : 0 ∉ data ++ [1] := by
      rw [List.mem_append]
      exact not_or.mpr ⟨hunterminated, by decide⟩
    -- a character that was in the buffer makes the text one too long
    have hlong := hread (data ++ [1])
    have hbraced := cStr_of_braced (QUuid.head_of_ofRegistryForm hnames) [1]
    rw [List.drop_left, hall] at hlong
    split at hlong
    · exact absurd (Prod.mk.inj hlong).2 (by simp)
    · next u hu =>
      have hlength := QUuid.length_of_ofRegistryForm ((libs.braced hbraced).mp hu)
      rw [cStr_of_unterminated hmore, List.length_append, List.length_singleton] at hlength
      rw [cStr_of_unterminated hunterminated] at hnames
      have hshort := QUuid.length_of_ofRegistryForm hnames
      omega
  · intro hterminated stale
    rw [hread, cStr_of_terminated hterminated, libs.clsidFromString_of_registryForm hnames]

/-- A registry that names a library for every class, in a value without its null character. -/
def unterminated : TypeLibraries where
  toOle32 := .ofProgIDs fun _ => none
  stringFromCLSID _ := S_OK
  openTypeLib _ := S_OK
  queryTypeLib _ := (ERROR_SUCCESS, qString "{00000000-0000-0000-0000-00000000000a}")
  openLibrary _ := S_OK
  subkeys _ := []
  loadRegTypeLib _ _ _ := ⟨E_FAIL, none, fun _ => rfl⟩
  getTypeInfoOfGuid _ _ := ⟨E_FAIL, none, fun _ => rfl⟩
  coClass _ := twoSources

theorem readTypeLibIdFromCLSID_iff_unterminated :
    (∀ stale, readTypeLibIdFromCLSID unterminated stale 1 true = (S_OK, some 10)) ↔
      0 ∈ (unterminated.queryTypeLib 1).2 :=
  readTypeLibIdFromCLSID_iff unterminated (by decide) (by decide) rfl (by decide +kernel)

end HostProvideClassInfo

/-! ## Class infos -/

inductive ClassInfoResource
  | typeLib (pTL : ℕ)
  | type (r : TypeResource)
deriving DecidableEq, Repr

/-- `HostProvideClassInfo`, with what the control answers: by whether there is a place for the
type info, and by the kind of GUID and whether there is a place for it. -/
structure ClassInfo where
  classId : QUuid
  underlying : Option (Bool → Answer ℕ)
  underlying2 : Option (DWORD → Bool → Answer QUuid)

namespace ClassInfo

open ClassInfoResource TypeResource HostProvideClassInfo

/-- A type info that is handed out. -/
def handsOut (pTI : Option ℕ) : List (Event ClassInfoResource) :=
  pTI.toList.map fun pTI => .acquire (type (typeInfo pTI))

/-- The part of `GetClassInfo` that does without the control; the `CComPtr` of the library is
released at its end. -/
def getClassInfoFromTypeLib (p : ClassInfo) (libs : TypeLibraries) (stale : List QChar) :
    (HRESULT × Option ℕ) × List (Event ClassInfoResource) :=
  let (hr, pTL) := getTypeLibFromCLSID libs stale p.classId true
  match pTL with
  | none => if failed hr then ((hr, none), []) else ((E_UNEXPECTED, none), [])
  | some pTL =>
    if failed hr then ((hr, none), [.acquire (typeLib pTL), .release (typeLib pTL)])
    else
      let found := libs.getTypeInfoOfGuid pTL p.classId
      ((found.hr, found.value),
        .acquire (typeLib pTL) :: handsOut found.value ++ [.release (typeLib pTL)])

def getClassInfo (p : ClassInfo) (libs : TypeLibraries) (stale : List QChar) (ppTI : Bool) :
    (HRESULT × Option ℕ) × List (Event ClassInfoResource) :=
  let rest := if ppTI = false then ((E_POINTER, none), []) else p.getClassInfoFromTypeLib libs stale
  match p.underlying with
  | none => rest
  | some answer =>
    if succeeded (answer ppTI).hr then
      (((answer ppTI).hr, (answer ppTI).value), handsOut (answer ppTI).value)
    else rest

def typeEvent : TypeEvent → Event TypeResource
  | .acquire r => .acquire r
  | .release r => .release r

/-- The events of `FindDefaultSourceIID`. -/
def typeEvents (events : List TypeEvent) : List (Event ClassInfoResource) :=
  (events.map typeEvent).map (Event.map type)

/-- The part of `GetGUID` that does without the control. -/
def getGUIDFromClassInfo (p : ClassInfo) (libs : TypeLibraries) (stale : List QChar) (fuel : ℕ) :
    Option ((HRESULT × Option QUuid) × List (Event ClassInfoResource)) :=
  let ((hr, pTI), events) := p.getClassInfo libs stale true
  match pTI with
  | none => some (if failed hr then (hr, none) else (E_UNEXPECTED, none), events)
  | some pTI =>
    if failed hr then some ((hr, none), events ++ [.release (type (typeInfo pTI))])
    else (findDefaultSourceIID fuel (some (libs.coClass pTI)) true).map fun (hr, guid, source) =>
      ((hr, guid), events ++ typeEvents source ++ [.release (type (typeInfo pTI))])

def getGUID (p : ClassInfo) (libs : TypeLibraries) (stale : List QChar) (fuel : ℕ)
    (dwGuidKind : DWORD) (pGUID : Bool) :
    Option ((HRESULT × Option QUuid) × List (Event ClassInfoResource)) :=
  let rest :=
    if pGUID = false then some ((E_POINTER, none), [])
    else if dwGuidKind ≠ GUIDKIND_DEFAULT_SOURCE_DISP_IID then some ((E_INVALIDARG, none), [])
    else p.getGUIDFromClassInfo libs stale fuel
  match p.underlying2 with
  | none => rest
  | some answer =>
    if succeeded (answer dwGuidKind pGUID).hr then
      some (((answer dwGuidKind pGUID).hr, (answer dwGuidKind pGUID).value), [])
    else rest

/-! ## What is kept -/

theorem held_typeEvent (events : List TypeEvent) (rs : List TypeResource) :
    held (events.map typeEvent) rs = TypeEvent.held events rs := by
  induction events generalizing rs with
  | nil => rfl
  | cons event events ih =>
      cases event with
      | acquire r => exact ih (r :: rs)
      | release r =>
          rw [List.map_cons, typeEvent, TypeEvent.held, held]
          split_ifs
          · exact ih (rs.erase r)
          · rfl

theorem cleared_typeEvents {events : List TypeEvent} (h : TypeEvent.GivenBack events) :
    Cleared (typeEvents events) :=
  Cleared.map (fun _ _ heq => ClassInfoResource.type.inj heq) ((held_typeEvent events []).trans h)

theorem held_handsOut (pTI : Option ℕ) (rs : List ClassInfoResource) :
    held (handsOut pTI) rs = some (pTI.toList.map (fun pTI => type (typeInfo pTI)) ++ rs) := by
  cases pTI with
  | none => rfl
  | some pTI => rfl

/-- `GetClassInfo` keeps nothing but what it hands out. -/
theorem held_getClassInfo (p : ClassInfo) (libs : TypeLibraries) (stale : List QChar)
    (ppTI : Bool) :
    held (p.getClassInfo libs stale ppTI).2 [] =
      some ((p.getClassInfo libs stale ppTI).1.2.toList.map fun pTI => type (typeInfo pTI)) := by
  have hlib : held (p.getClassInfoFromTypeLib libs stale).2 [] = some
      ((p.getClassInfoFromTypeLib libs stale).1.2.toList.map fun pTI => type (typeInfo pTI)) := by
    unfold getClassInfoFromTypeLib
    dsimp only
    split
    · split_ifs <;> rfl
    · next pTL _ =>
      split_ifs
      · simp [held]
      · rw [List.cons_append, held_acquire, held_append, held_handsOut, Option.bind_some,
          held_release_of_mem (by simp), held_nil, List.erase_append_right _ (by simp),
          List.erase_cons_head, List.append_nil]
  unfold getClassInfo
  dsimp only
  split
  · split_ifs
    · rfl
    · exact hlib
  · split_ifs
    · rw [held_handsOut, List.append_nil]
    · rfl
    · exact hlib

/-! ## Where a type info comes from -/

/-- The control does not answer. -/
def Silent (p : ClassInfo) : Prop := ∀ answer ∈ p.underlying, failed (answer true).hr = true

theorem failed_libNotRegistered : failed TYPE_E_LIBNOTREGISTERED = true := by decide

theorem failed_findLatestTypeLibVersion {stringFromCLSID openKey : HRESULT}
    (h : ¬ (failed stringFromCLSID = false ∧ failed openKey = false)) (subkeys : List QString) :
    failed (findLatestTypeLibVersion true true stringFromCLSID openKey subkeys).1 = true := by
  unfold findLatestTypeLibVersion
  rw [if_neg (by simp)]
  split_ifs with hstring hopen
  · exact hstring
  · exact failed_libNotRegistered
  · exact absurd ⟨Bool.eq_false_iff.mpr hstring, Bool.eq_false_iff.mpr hopen⟩ h

theorem findLatestTypeLibVersion_opened {stringFromCLSID openKey : HRESULT}
    (hstring : failed stringFromCLSID = false) (hopen : failed openKey = false)
    (subkeys : List QString) :
    findLatestTypeLibVersion true true stringFromCLSID openKey subkeys =
      findLatestTypeLibVersion true true S_OK S_OK subkeys := by
  unfold findLatestTypeLibVersion
  simp [hstring, hopen, failed_S_OK]

/-- A version is found that is not 0.0, and that what the loop reads settles at. -/
theorem findLatestTypeLibVersion_iff (stringFromCLSID openKey : HRESULT) (subkeys : List QString)
    (v : USHORT × USHORT) :
    findLatestTypeLibVersion true true stringFromCLSID openKey subkeys = (S_OK, some v) ↔
      failed stringFromCLSID = false ∧ failed openKey = false ∧ v ≠ (0, 0) ∧
        Settles (2 ^ 16) (numbers v) (readings subkeys) := by
  by_cases hopened : failed stringFromCLSID = false ∧ failed openKey = false
  · rw [findLatestTypeLibVersion_opened hopened.1 hopened.2, finds_iff]
    simp [hopened]
  · refine iff_of_false (fun h => ?_) fun h => hopened ⟨h.1, h.2.1⟩
    have hfailed := failed_findLatestTypeLibVersion hopened subkeys
    rw [h, failed_S_OK] at hfailed
    exact Bool.false_ne_true hfailed

theorem findLatestTypeLibVersion_succeeds {stringFromCLSID openKey : HRESULT}
    {subkeys : List QString}
    (h : failed (findLatestTypeLibVersion true true stringFromCLSID openKey subkeys).1 = false) :
    ∃ v, findLatestTypeLibVersion true true stringFromCLSID openKey subkeys = (S_OK, some v) := by
  by_cases hopened : failed stringFromCLSID = false ∧ failed openKey = false
  · rw [findLatestTypeLibVersion_opened hopened.1 hopened.2, findLatestTypeLibVersion_eq] at h ⊢
    split_ifs at h ⊢
    · exact absurd (h.symm.trans failed_libNotRegistered) (by simp)
    · exact ⟨_, rfl⟩
  · exact absurd (h.symm.trans (failed_findLatestTypeLibVersion hopened subkeys)) (by simp)

/-- The library that the registry has for a class. -/
def LibraryOf (libs : TypeLibraries) (stale : List QChar) (rclsid : QUuid) (pTL : ℕ) : Prop :=
  ∃ libid v, (readTypeLibIdFromCLSID libs stale rclsid true).2 = some libid ∧
    failed (libs.stringFromCLSID libid) = false ∧ failed (libs.openLibrary libid) = false ∧
    v ≠ (0, 0) ∧ Settles (2 ^ 16) (numbers v) (readings (libs.subkeys libid)) ∧
    (libs.loadRegTypeLib libid v.1 v.2).value = some pTL

theorem getTypeLibFromCLSID_eq_some (libs : TypeLibraries) (stale : List QChar) (rclsid : QUuid)
    (pTL : ℕ) :
    (getTypeLibFromCLSID libs stale rclsid true).2 = some pTL ↔
      LibraryOf libs stale rclsid pTL := by
  unfold getTypeLibFromCLSID LibraryOf
  rw [if_neg (by simp)]
  cases hread : readTypeLibIdFromCLSID libs stale rclsid true with
  | mk hr libid =>
      cases libid with
      | none => simp
      | some libid =>
          dsimp only
          have hfind := findLatestTypeLibVersion_iff (libs.stringFromCLSID libid)
            (libs.openLibrary libid) (libs.subkeys libid)
          constructor
          · intro h
            split_ifs at h with hfailed
            obtain ⟨v, hv⟩ := findLatestTypeLibVersion_succeeds (Bool.eq_false_iff.mpr hfailed)
            rw [hv] at h
            obtain ⟨hstring, hopen, hne, hsettles⟩ := (hfind v).mp hv
            exact ⟨libid, v, rfl, hstring, hopen, hne, hsettles, h⟩
          · rintro ⟨libid', v, hlibid, hstring, hopen, hne, hsettles, hloaded⟩
            obtain rfl := Option.some.inj hlibid
            have hv := (hfind v).mpr ⟨hstring, hopen, hne, hsettles⟩
            rw [hv, if_neg (by simp [failed_S_OK])]
            exact hloaded

theorem Answer.failed_of_some {α : Type*} {answer : Answer α} {a : α}
    (h : answer.value = some a) : failed answer.hr = false := by
  refine Bool.eq_false_iff.mpr fun hfailed => ?_
  rw [answer.none_of_failed hfailed] at h
  exact absurd h (by simp)

theorem failed_getTypeLibFromCLSID {libs : TypeLibraries} {stale : List QChar} {rclsid : QUuid}
    {pTL : ℕ} (h : (getTypeLibFromCLSID libs stale rclsid true).2 = some pTL) :
    failed (getTypeLibFromCLSID libs stale rclsid true).1 = false := by
  unfold getTypeLibFromCLSID at h ⊢
  rw [if_neg (by simp)] at h ⊢
  split at h
  · exact absurd h (by simp)
  · dsimp only at h ⊢
    split_ifs at h ⊢
    exact Answer.failed_of_some h

/-- What `GetClassInfo` hands out is what the control answers; where it does not, it is the class
in the library that the registry has for it. -/
theorem getClassInfo_eq_some_iff (p : ClassInfo) (libs : TypeLibraries) (stale : List QChar)
    (pTI : ℕ) :
    (p.getClassInfo libs stale true).1.2 = some pTI ↔
      (∃ answer ∈ p.underlying, (answer true).value = some pTI) ∨
        p.Silent ∧ ∃ pTL, LibraryOf libs stale p.classId pTL ∧
          (libs.getTypeInfoOfGuid pTL p.classId).value = some pTI := by
  have hlib : (p.getClassInfoFromTypeLib libs stale).1.2 = some pTI ↔
      ∃ pTL, LibraryOf libs stale p.classId pTL ∧
        (libs.getTypeInfoOfGuid pTL p.classId).value = some pTI := by
    simp only [← getTypeLibFromCLSID_eq_some]
    unfold getClassInfoFromTypeLib
    dsimp only
    cases hloaded : (getTypeLibFromCLSID libs stale p.classId true).2 with
    | none =>
        dsimp only
        split_ifs <;> simp
    | some pTL =>
        dsimp only
        rw [if_neg (by simp [failed_getTypeLibFromCLSID hloaded])]
        simp
  unfold getClassInfo Silent
  simp only [Bool.true_eq_false, if_false]
  cases p.underlying with
  | none => simpa using hlib
  | some answer =>
      have hsilent : (∀ answer' ∈ some answer, failed (answer' true).hr = true) ↔
          failed (answer true).hr = true := ⟨fun h => h answer rfl, fun h _ ha => by
        rwa [← Option.some.inj ha]⟩
      have hanswers : (∃ answer' ∈ some answer, (answer' true).value = some pTI) ↔
          (answer true).value = some pTI :=
        ⟨fun ⟨_, ha, h⟩ => by rwa [Option.some.inj ha], fun h => ⟨answer, rfl, h⟩⟩
      rw [hsilent, hanswers]
      dsimp only
      rw [succeeded_eq]
      cases hfailed : failed (answer true).hr with
      | true =>
          rw [(answer true).none_of_failed hfailed]
          simpa using hlib
      | false => simp

/-! ## The GUID -/

theorem failed_getClassInfo {p : ClassInfo} {libs : TypeLibraries} {stale : List QChar} {pTI : ℕ}
    (h : (p.getClassInfo libs stale true).1.2 = some pTI) :
    failed (p.getClassInfo libs stale true).1.1 = false := by
  have hlib (h : (p.getClassInfoFromTypeLib libs stale).1.2 = some pTI) :
      failed (p.getClassInfoFromTypeLib libs stale).1.1 = false := by
    unfold getClassInfoFromTypeLib at h ⊢
    dsimp only at h ⊢
    split at h
    · split_ifs at h
    · split_ifs at h ⊢
      exact Answer.failed_of_some h
  unfold getClassInfo at h ⊢
  simp only [Bool.true_eq_false, if_false] at h ⊢
  cases hunderlying : p.underlying with
  | none =>
      rw [hunderlying] at h
      exact hlib h
  | some answer =>
      rw [hunderlying] at h
      dsimp only at h ⊢
      split_ifs at h ⊢ with hanswers
      · exact Answer.failed_of_some h
      · exact hlib h

theorem findDefaultSourceIID_finds (ti : CoClassTypeInfo) : ∃ hr guid events,
    Finds ti 0 hr guid events ∧ ∀ fuel, ti.implTypes.toNat < fuel →
      findDefaultSourceIID fuel (some ti) true = some (hr, some guid, events) := by
  obtain ⟨hr, guid, events, hfinds, hrun⟩ := findFrom_finds ti (i := 0) (by bv_omega)
  refine ⟨hr, guid, events, hfinds, fun fuel hfuel => ?_⟩
  unfold findDefaultSourceIID
  dsimp only
  rw [if_neg (by simp), hrun fuel hfuel]
  rfl

/-- What `GetGUID` answers where the control does not. -/
structure AnswersGUID (p : ClassInfo) (libs : TypeLibraries) (stale : List QChar)
    (dwGuidKind : DWORD) (pGUID : Bool) (hr : HRESULT) (guid : Option QUuid) : Prop where
  pointer : pGUID = false → hr = E_POINTER ∧ guid = none
  kind : pGUID = true → dwGuidKind ≠ GUIDKIND_DEFAULT_SOURCE_DISP_IID →
    hr = E_INVALIDARG ∧ guid = none
  source : pGUID = true → dwGuidKind = GUIDKIND_DEFAULT_SOURCE_DISP_IID →
    ∀ pTI, (p.getClassInfo libs stale true).1.2 = some pTI →
      ∃ iid events, guid = some iid ∧ Finds (libs.coClass pTI) 0 hr iid events
  noClassInfo : pGUID = true → dwGuidKind = GUIDKIND_DEFAULT_SOURCE_DISP_IID →
    (p.getClassInfo libs stale true).1.2 = none → failed hr = true ∧ guid = none

/-- The part without the control, where its class info is needed. -/
theorem getGUIDFromClassInfo_spec (p : ClassInfo) (libs : TypeLibraries) (stale : List QChar) :
    ∃ hr guid events bound,
      (∀ fuel, bound < fuel →
        p.getGUIDFromClassInfo libs stale fuel = some ((hr, guid), events)) ∧
      Cleared events ∧
      AnswersGUID p libs stale GUIDKIND_DEFAULT_SOURCE_DISP_IID true hr guid := by
  have hheld := held_getClassInfo p libs stale true
  unfold getGUIDFromClassInfo
  dsimp only
  cases hpTI : (p.getClassInfo libs stale true).1.2 with
  | none =>
      rw [hpTI] at hheld
      refine ⟨if failed (p.getClassInfo libs stale true).1.1 then
        (p.getClassInfo libs stale true).1.1 else E_UNEXPECTED, none, _, 0, fun fuel _ => ?_,
        hheld, by simp, fun _ h => absurd rfl h, fun _ _ pTI hpTI' => ?_, fun _ _ _ => ?_⟩
      · dsimp only
        split_ifs <;> rfl
      · exact absurd (hpTI.symm.trans hpTI') (by simp)
      · split_ifs with hfailed
        · exact ⟨hfailed, rfl⟩
        · exact ⟨by decide, rfl⟩
  | some pTI =>
      rw [hpTI] at hheld
      have hok := failed_getClassInfo hpTI
      obtain ⟨hr, guid, source, hfinds, hrun⟩ := findDefaultSourceIID_finds (libs.coClass pTI)
      refine ⟨hr, some guid, (p.getClassInfo libs stale true).2 ++ typeEvents source ++
        [.release (type (typeInfo pTI))], (libs.coClass pTI).implTypes.toNat,
        fun fuel hfuel => ?_, ?_, ?_⟩
      · dsimp only
        rw [if_neg (by simp [hok]), hrun fuel hfuel]
        rfl
      · unfold Cleared
        rw [held_append, held_append, hheld]
        have hsource := (cleared_typeEvents hfinds.released).held [type (typeInfo pTI)]
        simp only [Option.bind_some, Option.toList_some, List.map_cons, List.map_nil, hsource]
        rw [held_release_of_mem (List.mem_singleton_self _), held_nil, List.erase_cons_head]
      · refine ⟨by simp, fun _ h => absurd rfl h, fun _ _ pTI' hpTI' => ?_, fun _ _ h => ?_⟩
        · obtain rfl := Option.some.inj (hpTI.symm.trans hpTI')
          exact ⟨guid, source, rfl, hfinds⟩
        · exact absurd (hpTI.symm.trans h) (by simp)

/-- `GetGUID` comes back, with what the control answers or, where it does not, with the first
default source of the class; and whatever fails, it has released all that it took. -/
theorem getGUID_spec (p : ClassInfo) (libs : TypeLibraries) (stale : List QChar)
    (dwGuidKind : DWORD) (pGUID : Bool) : ∃ hr guid events bound,
      (∀ fuel, bound < fuel →
        p.getGUID libs stale fuel dwGuidKind pGUID = some ((hr, guid), events)) ∧
      Cleared events ∧
      ((∃ answer ∈ p.underlying2, succeeded (answer dwGuidKind pGUID).hr = true ∧
          hr = (answer dwGuidKind pGUID).hr ∧ guid = (answer dwGuidKind pGUID).value) ∨
        (∀ answer ∈ p.underlying2, failed (answer dwGuidKind pGUID).hr = true) ∧
          AnswersGUID p libs stale dwGuidKind pGUID hr guid) := by
  have hrest : ∃ hr guid events bound, (∀ fuel, bound < fuel →
      (if pGUID = false then some ((E_POINTER, none), [])
        else if dwGuidKind ≠ GUIDKIND_DEFAULT_SOURCE_DISP_IID then some ((E_INVALIDARG, none), [])
        else p.getGUIDFromClassInfo libs stale fuel) = some ((hr, guid), events)) ∧
      Cleared events ∧ AnswersGUID p libs stale dwGuidKind pGUID hr guid := by
    cases pGUID with
    | false =>
        exact ⟨E_POINTER, none, [], 0, fun _ _ => if_pos rfl, cleared_nil,
          fun _ => ⟨rfl, rfl⟩, by simp, by simp, by simp⟩
    | true =>
        by_cases hkind : dwGuidKind = GUIDKIND_DEFAULT_SOURCE_DISP_IID
        · subst hkind
          simpa using p.getGUIDFromClassInfo_spec libs stale
        · refine ⟨E_INVALIDARG, none, [], 0, fun _ _ => ?_, cleared_nil, by simp,
            fun _ _ => ⟨rfl, rfl⟩, fun _ h => absurd h hkind, fun _ h => absurd h hkind⟩
          rw [if_neg (by simp), if_pos hkind]
  unfold getGUID
  dsimp only
  cases p.underlying2 with
  | none =>
      obtain ⟨hr, guid, events, bound, hrun, hcleared, hanswers⟩ := hrest
      exact ⟨hr, guid, events, bound, hrun, hcleared, Or.inr ⟨by simp, hanswers⟩⟩
  | some answer =>
      dsimp only
      cases hfailed : failed (answer dwGuidKind pGUID).hr with
      | false =>
          refine ⟨_, _, [], 0, fun _ _ => if_pos (by rw [succeeded_eq, hfailed, Bool.not_false]),
            cleared_nil, Or.inl ⟨answer, rfl, ?_, rfl, rfl⟩⟩
          rw [succeeded_eq, hfailed, Bool.not_false]
      | true =>
          obtain ⟨hr, guid, events, bound, hrun, hcleared, hanswers⟩ := hrest
          refine ⟨hr, guid, events, bound, fun fuel hfuel => ?_, hcleared,
            Or.inr ⟨fun answer' ha => ?_, hanswers⟩⟩
          · rw [if_neg (by rw [succeeded_eq, hfailed]; exact Bool.false_ne_true)]
            exact hrun fuel hfuel
          · rwa [← Option.some.inj ha]

end ClassInfo

end Axhost
