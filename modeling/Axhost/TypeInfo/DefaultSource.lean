import Mathlib.Data.List.Basic
import Axhost.Platform.Windows

/-!
# The default source interface of a coclass

`provide_class_info.cc`: `FindDefaultSourceIID` goes through the implemented types of a coclass
until `GetImplTypeFlags` fails, and skips a type where any of its calls does.

* `tryIndex_eq_some`, `released_tryIndex`: what one index comes to, and that it keeps nothing;
* `findDefaultSourceIID_spec`: the loop ends with the first index that answers.
-/

namespace Axhost

def TYPE_E_ELEMENTNOTFOUND : HRESULT := 0x8002802B

def IMPLTYPEFLAG_FDEFAULT : DWORD := 0x1
def IMPLTYPEFLAG_FSOURCE : DWORD := 0x2

def GUID_NULL : QUuid := 0

structure TypeAttr where
  address : Nat
  guid : QUuid
deriving DecidableEq, Repr

/-- The type info of a coclass, with what its calls do while the loop is at an index. -/
structure CoClassTypeInfo where
  implTypes : DWORD
  getImplTypeFlags : DWORD → HRESULT × DWORD
  getRefTypeOfImplType : DWORD → HRESULT × DWORD
  getRefTypeInfo : DWORD → DWORD → HRESULT × Option Nat
  getTypeAttr : DWORD → Nat → HRESULT × Option TypeAttr
  flags_failed : ∀ i, failed (getImplTypeFlags i).1 = true ↔ implTypes ≤ i

/-- A coclass with these types, by their flags and identifiers, all of which can be looked at. -/
def CoClassTypeInfo.ofTypes (types : List (DWORD × QUuid)) (hlength : types.length < 2 ^ 32) :
    CoClassTypeInfo where
  implTypes := BitVec.ofNat 32 types.length
  getImplTypeFlags i := match types[i.toNat]? with
    | some (flags, _) => (S_OK, flags)
    | none => (TYPE_E_ELEMENTNOTFOUND, 0)
  getRefTypeOfImplType i := (S_OK, i)
  getRefTypeInfo _ href := (S_OK, some href.toNat)
  getTypeAttr _ pTI := (S_OK, types[pTI]?.map fun (_, guid) => ⟨pTI, guid⟩)
  flags_failed i := by
    rw [BitVec.le_def, BitVec.toNat_ofNat, Nat.mod_eq_of_lt hlength, ← List.getElem?_eq_none_iff]
    cases types[i.toNat]? with
    | none => simp [show failed TYPE_E_ELEMENTNOTFOUND = true by decide]
    | some type => simp [failed_S_OK]

/-! ## What is acquired and released -/

inductive TypeResource
  | typeInfo (pTI : Nat)
  | typeAttr (pTA : Nat)
deriving DecidableEq, Repr

inductive TypeEvent
  | acquire (r : TypeResource)
  | release (r : TypeResource)
deriving DecidableEq, Repr

namespace TypeEvent

/-- What is held after the events; nothing is released that is not held. -/
def held : List TypeEvent → List TypeResource → Option (List TypeResource)
  | [], rs => some rs
  | acquire r :: events, rs => held events (r :: rs)
  | release r :: events, rs => if r ∈ rs then held events (rs.erase r) else none

/-- All that was acquired has been released. -/
def GivenBack (events : List TypeEvent) : Prop := held events [] = some []

theorem held_append (events events' : List TypeEvent) (rs : List TypeResource) :
    held (events ++ events') rs = (held events rs).bind (held events') := by
  induction events generalizing rs with
  | nil => rfl
  | cons event events ih =>
      cases event with
      | acquire r => exact ih (r :: rs)
      | release r =>
          rw [List.cons_append, held, held]
          split_ifs
          · exact ih (rs.erase r)
          · rfl

theorem GivenBack.append {events events' : List TypeEvent} (h : GivenBack events)
    (h' : GivenBack events') : GivenBack (events ++ events') := by
  unfold GivenBack at h h' ⊢
  rw [held_append, h, Option.bind_some, h']

end TypeEvent

namespace HostProvideClassInfo

open TypeEvent TypeResource

/-- The loop body at an index whose flags have been read: the GUID that it returns with, or it goes
on. -/
def tryIndex (ti : CoClassTypeInfo) (i implFlags : DWORD) : Option QUuid × List TypeEvent :=
  if hasFlag implFlags IMPLTYPEFLAG_FDEFAULT = false then (none, [])
  else if hasFlag implFlags IMPLTYPEFLAG_FSOURCE = false then (none, [])
  else
    let (hr, href) := ti.getRefTypeOfImplType i
    if failed hr then (none, [])
    else
      let (hr, pTI) := ti.getRefTypeInfo i href
      if failed hr then (none, [])
      else match pTI with
        | none => (none, [])
        | some pTI =>
          let (hr, pTA) := ti.getTypeAttr i pTI
          if failed hr then (none, [acquire (typeInfo pTI), release (typeInfo pTI)])
          else match pTA with
            | none => (none, [acquire (typeInfo pTI), release (typeInfo pTI)])
            | some pTA =>
              (some pTA.guid,
                [acquire (typeInfo pTI), acquire (typeAttr pTA.address),
                  release (typeAttr pTA.address), release (typeInfo pTI)])

/-- The loop from an index on, with what it leaves in `*pOut`. -/
def findFrom (ti : CoClassTypeInfo) : Nat → DWORD → Option (HRESULT × QUuid × List TypeEvent)
  | 0, _ => none
  | fuel + 1, i =>
    let (hr, implFlags) := ti.getImplTypeFlags i
    if failed hr then some (TYPE_E_ELEMENTNOTFOUND, GUID_NULL, [])
    else match tryIndex ti i implFlags with
      | (some guid, events) => some (S_OK, guid, events)
      | (none, events) => (findFrom ti fuel (i + 1)).map fun (hr, guid, rest) =>
        (hr, guid, events ++ rest)

def findDefaultSourceIID (fuel : Nat) (pCoClassTI : Option CoClassTypeInfo) (pOut : Bool) :
    Option (HRESULT × Option QUuid × List TypeEvent) :=
  match pCoClassTI with
  | none => some (E_POINTER, none, [])
  | some ti =>
    if pOut = false then some (E_POINTER, none, [])
    else (findFrom ti fuel 0).map fun (hr, guid, events) => (hr, some guid, events)

/-! ## One index -/

/-- The index has both flags, and the GUID of its type can be obtained. -/
def DefaultSource (ti : CoClassTypeInfo) (i : DWORD) (guid : QUuid) : Prop :=
  hasFlag (ti.getImplTypeFlags i).2 IMPLTYPEFLAG_FDEFAULT = true ∧
  hasFlag (ti.getImplTypeFlags i).2 IMPLTYPEFLAG_FSOURCE = true ∧
  failed (ti.getRefTypeOfImplType i).1 = false ∧
  ∃ pTI, failed (ti.getRefTypeInfo i (ti.getRefTypeOfImplType i).2).1 = false ∧
    (ti.getRefTypeInfo i (ti.getRefTypeOfImplType i).2).2 = some pTI ∧
    ∃ pTA, failed (ti.getTypeAttr i pTI).1 = false ∧ (ti.getTypeAttr i pTI).2 = some pTA ∧
      pTA.guid = guid

theorem tryIndex_eq_some (ti : CoClassTypeInfo) (i : DWORD) (guid : QUuid) :
    (tryIndex ti i (ti.getImplTypeFlags i).2).1 = some guid ↔ DefaultSource ti i guid := by
  unfold tryIndex DefaultSource
  dsimp only
  split_ifs with hdefault hsource href hinfo
  · simp [hdefault]
  · simp [hsource]
  · simp [href]
  · simp [hinfo]
  · cases hpTI : (ti.getRefTypeInfo i (ti.getRefTypeOfImplType i).2).2 with
    | none => simp
    | some pTI =>
        dsimp only
        split_ifs with hattr
        · simp [hattr]
        · cases hpTA : (ti.getTypeAttr i pTI).2 with
          | none => simp [hpTA]
          | some pTA => simp_all

theorem released_tryIndex (ti : CoClassTypeInfo) (i implFlags : DWORD) :
    GivenBack (tryIndex ti i implFlags).2 := by
  unfold tryIndex
  dsimp only
  split_ifs
  · rfl
  · rfl
  · rfl
  · rfl
  · cases (ti.getRefTypeInfo i (ti.getRefTypeOfImplType i).2).2 with
    | none => rfl
    | some pTI =>
        dsimp only
        split_ifs
        · simp [GivenBack, held]
        · cases (ti.getTypeAttr i pTI).2 with
          | none => simp [GivenBack, held]
          | some pTA => simp [GivenBack, held]

/-! ## The loop -/

/-- What the loop has to come to from an index on. -/
structure Finds (ti : CoClassTypeInfo) (i : DWORD) (hr : HRESULT) (guid : QUuid)
    (events : List TypeEvent) : Prop where
  result : (hr = S_OK ∧ ∃ j, i ≤ j ∧ j < ti.implTypes ∧ DefaultSource ti j guid ∧
      ∀ k, i ≤ k → k < j → ∀ other, ¬ DefaultSource ti k other) ∨
    (hr = TYPE_E_ELEMENTNOTFOUND ∧ guid = GUID_NULL ∧
      ∀ k, i ≤ k → k < ti.implTypes → ∀ other, ¬ DefaultSource ti k other)
  released : GivenBack events

theorem Finds.skip {ti : CoClassTypeInfo} {i : DWORD} {hr : HRESULT} {guid : QUuid}
    {before events : List TypeEvent} (hi : i < ti.implTypes)
    (hskip : ∀ other, ¬ DefaultSource ti i other) (hbefore : GivenBack before)
    (h : Finds ti (i + 1) hr guid events) : Finds ti i hr guid (before ++ events) := by
  have hnext {k : DWORD} (hk : i ≤ k) (hne : k ≠ i) : i + 1 ≤ k := by bv_omega
  have hrest {j : DWORD} (hall : ∀ k, i + 1 ≤ k → k < j → ∀ other, ¬ DefaultSource ti k other) :
      ∀ k, i ≤ k → k < j → ∀ other, ¬ DefaultSource ti k other := by
    intro k hk hj
    by_cases hki : k = i
    · exact hki ▸ hskip
    · exact hall k (hnext hk hki) hj
  refine ⟨?_, hbefore.append h.released⟩
  rcases h.result with ⟨hok, j, hij, hj, hsource, hfirst⟩ | ⟨hnone, hnull, hall⟩
  · exact Or.inl ⟨hok, j, by bv_omega, hj, hsource, hrest hfirst⟩
  · exact Or.inr ⟨hnone, hnull, hrest hall⟩

theorem findFrom_end {ti : CoClassTypeInfo} {i : DWORD} (hi : ti.implTypes ≤ i) (fuel : Nat) :
    findFrom ti (fuel + 1) i = some (TYPE_E_ELEMENTNOTFOUND, GUID_NULL, []) := by
  have hfailed := (ti.flags_failed i).mpr hi
  simp only [findFrom, hfailed, if_true]

theorem findFrom_succ {ti : CoClassTypeInfo} {i : DWORD} (hi : i < ti.implTypes) (fuel : Nat) :
    findFrom ti (fuel + 1) i = match tryIndex ti i (ti.getImplTypeFlags i).2 with
      | (some guid, events) => some (S_OK, guid, events)
      | (none, events) => (findFrom ti fuel (i + 1)).map fun (hr, guid, rest) =>
        (hr, guid, events ++ rest) := by
  have hfailed : failed (ti.getImplTypeFlags i).1 = false := by
    rw [Bool.eq_false_iff, ne_eq, ti.flags_failed]
    bv_omega
  simp only [findFrom, hfailed, Bool.false_eq_true, if_false]

theorem findFrom_finds (ti : CoClassTypeInfo) {i : DWORD} (hi : i ≤ ti.implTypes) :
    ∃ hr guid events, Finds ti i hr guid events ∧
      ∀ fuel, ti.implTypes.toNat - i.toNat < fuel →
        findFrom ti fuel i = some (hr, guid, events) := by
  -- the indices that are left
  generalize hleft : ti.implTypes.toNat - i.toNat = left
  induction left generalizing i with
  | zero =>
      have hend : ti.implTypes ≤ i := by bv_omega
      refine ⟨TYPE_E_ELEMENTNOTFOUND, GUID_NULL, [], ⟨Or.inr ⟨rfl, rfl, ?_⟩, rfl⟩, ?_⟩
      · intro k hik hk
        bv_omega
      · intro fuel hfuel
        obtain ⟨fuel, rfl⟩ := Nat.exists_eq_succ_of_ne_zero hfuel.ne'
        exact findFrom_end hend fuel
  | succ left ih =>
      have hlt : i < ti.implTypes := by bv_omega
      have hreleased := released_tryIndex ti i (ti.getImplTypeFlags i).2
      have hiff := tryIndex_eq_some ti i
      cases htry : tryIndex ti i (ti.getImplTypeFlags i).2 with
      | mk found events =>
          rw [htry] at hreleased hiff
          cases found with
          | some guid =>
              refine ⟨S_OK, guid, events, ⟨Or.inl ⟨rfl, i, ?_, hlt, (hiff guid).mp rfl, ?_⟩,
                hreleased⟩, ?_⟩
              · bv_omega
              · intro k hik hk
                bv_omega
              · intro fuel hfuel
                obtain ⟨fuel, rfl⟩ := Nat.exists_eq_succ_of_ne_zero (Nat.ne_zero_of_lt hfuel)
                rw [findFrom_succ hlt, htry]
          | none =>
              have hskip : ∀ other, ¬ DefaultSource ti i other := by
                intro other hother
                simpa using (hiff other).mpr hother
              obtain ⟨hr, guid, rest, hfinds, hrun⟩ := @ih (i + 1) (by bv_omega) (by bv_omega)
              refine ⟨hr, guid, events ++ rest, hfinds.skip hlt hskip hreleased, ?_⟩
              intro fuel hfuel
              obtain ⟨fuel, rfl⟩ := Nat.exists_eq_succ_of_ne_zero (Nat.ne_zero_of_lt hfuel)
              rw [findFrom_succ hlt, htry, hrun fuel (by omega)]
              rfl

/-- `FindDefaultSourceIID` comes back after at most one turn for each implemented type and one more,
with the first type that is a default source and can be looked at, and holds nothing then. -/
theorem findDefaultSourceIID_spec (ti : CoClassTypeInfo) :
    ∃ hr guid events,
      (∀ fuel, ti.implTypes.toNat < fuel →
        findDefaultSourceIID fuel (some ti) true = some (hr, some guid, events)) ∧
      ((hr = S_OK ∧ ∃ i, i < ti.implTypes ∧ DefaultSource ti i guid ∧
          ∀ k, k < i → ∀ other, ¬ DefaultSource ti k other) ∨
        (hr = TYPE_E_ELEMENTNOTFOUND ∧ guid = GUID_NULL ∧
          ∀ k, k < ti.implTypes → ∀ other, ¬ DefaultSource ti k other)) ∧
      GivenBack events := by
  have hzero {k : DWORD} : 0 ≤ k := by bv_omega
  obtain ⟨hr, guid, events, hfinds, hrun⟩ := findFrom_finds ti (i := 0) hzero
  refine ⟨hr, guid, events, fun fuel hfuel => ?_, ?_, hfinds.released⟩
  · unfold findDefaultSourceIID
    dsimp only
    rw [if_neg (by simp), hrun fuel hfuel]
    rfl
  · rcases hfinds.result with ⟨hok, i, -, hi, hsource, hfirst⟩ | ⟨hnone, hnull, hall⟩
    · exact Or.inl ⟨hok, i, hi, hsource, fun k hk => hfirst k hzero hk⟩
    · exact Or.inr ⟨hnone, hnull, fun k hk => hall k hzero hk⟩

/-- A default interface, and two default sources. -/
def twoSources : CoClassTypeInfo :=
  .ofTypes [(IMPLTYPEFLAG_FDEFAULT, 5), (IMPLTYPEFLAG_FDEFAULT ||| IMPLTYPEFLAG_FSOURCE, 6),
    (IMPLTYPEFLAG_FDEFAULT ||| IMPLTYPEFLAG_FSOURCE, 7)] (by decide)

example : findDefaultSourceIID 4 (some twoSources) true =
    some (S_OK, some 6, [.acquire (.typeInfo 1), .acquire (.typeAttr 1), .release (.typeAttr 1),
      .release (.typeInfo 1)]) := by
  decide

end HostProvideClassInfo

end Axhost
