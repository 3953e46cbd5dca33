import Axhost.Platform.ClassIdText

/-!
# The class identifier argument

`as_classid.cc`: the validator that rewrites the `CLSID` argument of a surrogate, or rejects it
with a message.

* `asClassId_eq_ok_iff`: which texts are accepted, and what becomes of them.
-/

namespace Axhost

open QString

def invalidClsid (hr : HRESULT) (input : QString) : QString :=
  qString ("invalid clsid string (" ++ toString hr.toInt ++ "): ") ++ input

/-- `AsClassId`, with the text it puts in place of the input, or its error. -/
def asClassId (ole : Ole32) (input : QString) : Except QString QString :=
  match ole.clsidFromString input.cStr with
  | .error hr => .error (invalidClsid hr input)
  | .ok u => .ok (toUpper (QUuid.toString u))

theorem asClassId_eq_ok (ole : Ole32) (s c : QString) :
    asClassId ole s = .ok c ↔ ∃ u, ole.clsid? s = some u ∧ c = toUpper (QUuid.toString u) := by
  unfold asClassId Ole32.clsid?
  cases ole.clsidFromString s.cStr with
  | error hr => simp [Except.toOption]
  | ok u => simp [Except.toOption, eq_comm]

theorem toLower_toString (u : QUuid) : toLower (QUuid.toString u) = QUuid.toString u :=
  QUuid.ofRegistryForm_iff.mp (QUuid.ofRegistryForm_toString u)

theorem toUpper_toString_injective {u v : QUuid}
    (h : toUpper (QUuid.toString u) = toUpper (QUuid.toString v)) : u = v := by
  have hlower := congrArg toLower h
  rw [toLower_toUpper, toLower_toUpper, toLower_toString, toLower_toString] at hlower
  have hread := QUuid.ofRegistryForm_toString u
  rw [hlower, QUuid.ofRegistryForm_toString] at hread
  exact (Option.some.inj hread).symm

theorem clsid?_toUpper_toString (ole : Ole32) (u : QUuid) :
    ole.clsid? (toUpper (QUuid.toString u)) = some u := by
  apply ole.clsid?_of_registryForm
  rw [QUuid.ofRegistryForm_iff, toLower_toUpper, toLower_toString]

/-- A text is accepted when `CLSIDFromString` reads it.  All texts of one identifier become the
same one, which differs from what it is written as in letter case and is accepted as it is; a text
that begins with a brace is accepted only when it is, but for its case, such a text already. -/
theorem asClassId_eq_ok_iff (ole : Ole32) (s c : QString) :
    (asClassId ole s = .ok c ↔ ∃ u, ole.clsid? s = some u ∧ toLower c = QUuid.toString u ∧
      asClassId ole c = .ok c ∧ ∀ t, asClassId ole t = .ok c ↔ ole.clsid? t = some u) ∧
    (s.head? = some (qLatin1Char '\x7b') → 0 ∉ s →
      (asClassId ole s = .ok c ↔ c = toUpper s ∧ ∃ u, toLower s = QUuid.toString u)) := by
  constructor
  · constructor
    · intro h
      obtain ⟨u, hu, rfl⟩ := (asClassId_eq_ok ole s c).mp h
      refine ⟨u, hu, by rw [toLower_toUpper, toLower_toString],
        (asClassId_eq_ok ole _ _).mpr ⟨u, clsid?_toUpper_toString ole u, rfl⟩, fun t => ?_⟩
      rw [asClassId_eq_ok]
      constructor
      · rintro ⟨v, hv, hsame⟩
        rw [toUpper_toString_injective hsame, hv]
      · intro hread
        exact ⟨u, hread, rfl⟩
    · rintro ⟨u, hu, -, -, hall⟩
      exact (hall s).mpr hu
  · intro hbrace hterminated
    have hread (u : QUuid) : ole.clsid? s = some u ↔ toLower s = QUuid.toString u := by
      rw [← QUuid.ofRegistryForm_iff, ← ole.braced hbrace, Ole32.clsid?,
        cStr_of_unterminated hterminated]
      cases ole.clsidFromString s <;> simp [Except.toOption]
    rw [asClassId_eq_ok]
    simp only [hread]
    constructor
    · rintro ⟨u, hu, rfl⟩
      exact ⟨by rw [← hu, toUpper_toLower], u, hu⟩
    · rintro ⟨rfl, u, hu⟩
      exact ⟨u, hu, by rw [← hu, toUpper_toLower]⟩

example : asClassId (.ofProgIDs fun _ => none) (qString "12345678-0000-0000-0000-000000000000") =
    .error (qString
      "invalid clsid string (-2147221005): 12345678-0000-0000-0000-000000000000") := by
  decide +kernel

end Axhost
