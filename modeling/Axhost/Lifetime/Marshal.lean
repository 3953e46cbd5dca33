import Axhost.Lib.Transition
import Axhost.Platform.Windows

/-!
# How a factory is marshaled

The constructor and the `IMarshal` methods of `container_factory.cc`.  Each method makes a
standard marshaler for the object that `GetInterfaceToBeMarshaled` picks by the interface
identifier: the factory, or the class object it stands for.  `ReleaseMarshalData` and
`DisconnectObject` are not told an identifier, and take that of `IUnknown`.

* `MarshalingFactory.handsRight_iff`: when the pointer picked is a sound one;
* `MarshalingFactory.disconnectObject_iff`: when `DisconnectObject` leaves nothing connected;
* `MarshalingFactory.marshals_iff`: both over the life of a factory.
-/

namespace Axhost

open Transition

def MSHCTX_LOCAL : DWORD := 0
def MSHLFLAGS_NORMAL : DWORD := 0

/-- What the two calls of the constructor give.  The fields are the rules of COM: a failed
call leaves a null pointer, and the `IUnknown` of an object is the object. -/
structure Construction where
  coGetClassObject : HRESULT
  classObject : Option Nat
  queryInterface : HRESULT
  unknown : Option Nat
  classObject_of_failed : failed coGetClassObject = true → classObject = none
  unknown_of_failed : failed queryInterface = true → unknown = none
  unknown_eq : unknown = none ∨ unknown = classObject

/-- The constructor gets the class object, or the memory of `m_underlyingUnk` happens to be
null or to point to the factory at `this`. -/
def Construction.Sound (o : Construction) (this : Nat) (memory : Option Nat) : Prop :=
  o.classObject.isSome = true ∨ memory = none ∨ memory = some this

/-- The pointers of a factory, each the object it points to, and the objects that its
`MarshalInterface` has connected. -/
structure MarshalingFactory where
  unk : Nat
  underlying : Option Nat
  underlyingUnk : Option Nat
  connected : List Nat := []
deriving DecidableEq, Repr

/-- The context arguments that a method passes on. -/
structure MarshalContext where
  dwDestContext : DWORD := MSHCTX_LOCAL
  pvDestContext : Nat := 0
  mshlflags : DWORD := MSHLFLAGS_NORMAL
deriving DecidableEq, Repr

inductive MarshalCall
  | getUnmarshalClass (riid : IID) (context : MarshalContext)
  | getMarshalSizeMax (riid : IID) (context : MarshalContext)
  | marshalInterface (riid : IID) (context : MarshalContext)
  | unmarshalInterface (riid : IID)
  | releaseMarshalData
  | disconnectObject
deriving DecidableEq, Repr

namespace MarshalCall

/-- The identifier that the object is picked by. -/
def iid : MarshalCall → IID
  | getUnmarshalClass riid _ => riid
  | getMarshalSizeMax riid _ => riid
  | marshalInterface riid _ => riid
  | unmarshalInterface riid => riid
  | releaseMarshalData => IID_IUnknown
  | disconnectObject => IID_IUnknown

def context : MarshalCall → MarshalContext
  | getUnmarshalClass _ context => context
  | getMarshalSizeMax _ context => context
  | marshalInterface _ context => context
  | _ => {}

/-- An interface that the factory does not have itself. -/
def foreign (call : MarshalCall) : Bool := call.iid ≠ IID_IClassFactory ∧ call.iid ≠ IID_IUnknown

end MarshalCall

/-- The arguments of `CoGetStandardMarshal`. -/
structure StandardMarshal where
  riid : IID
  object : Nat
  context : MarshalContext
deriving DecidableEq, Repr

/-- A call, with the results of `CoGetStandardMarshal` and of the marshaler's method, or the
end of a connection that is not the factory's doing. -/
inductive MarshalEvent
  | call (call : MarshalCall) (coGetStandardMarshal hr : HRESULT)
  | release (object : Nat)
deriving DecidableEq, Repr

namespace MarshalingFactory

/-- The constructor of the factory at `this`; `memory` is what `m_underlyingUnk` has before
anything is written to it. -/
def new (this : Nat) (memory : Option Nat) (o : Construction) : MarshalingFactory :=
  if failed o.coGetClassObject then
    { unk := this, underlying := o.classObject, underlyingUnk := memory }
  else match o.classObject with
    | none => { unk := this, underlying := none, underlyingUnk := memory }
    | some classObject =>
      { unk := this, underlying := some classObject, underlyingUnk := o.unknown }

def getInterfaceToBeMarshaled (s : MarshalingFactory) (riid : IID) : Nat :=
  if riid = IID_IClassFactory ∨ riid = IID_IUnknown then s.unk
  else match s.underlyingUnk with
    | some p => p
    | none => s.unk

/-- What a call hands to `CoGetStandardMarshal`. -/
def standardMarshal (s : MarshalingFactory) (call : MarshalCall) : StandardMarshal where
  riid := call.iid
  object := s.getInterfaceToBeMarshaled call.iid
  context := call.context

/-- A call, to its result: only `MarshalInterface` connects an object, and only
`DisconnectObject` disconnects one. -/
def perform (s : MarshalingFactory) (call : MarshalCall) (coGetStandardMarshal hr : HRESULT) :
    HRESULT × MarshalingFactory :=
  if failed coGetStandardMarshal then (coGetStandardMarshal, s)
  else
    let object := (s.standardMarshal call).object
    match call with
    | .marshalInterface _ _ =>
      if failed hr then (hr, s) else (hr, { s with connected := s.connected ++ [object] })
    | .disconnectObject =>
      if failed hr then (hr, s)
      else (hr, { s with connected := s.connected.filter fun p => p ≠ object })
    | _ => (hr, s)

def step (s : MarshalingFactory) : MarshalEvent → Option MarshalingFactory
  | .call call coGetStandardMarshal hr => some (s.perform call coGetStandardMarshal hr).2
  | .release object =>
    if object ∈ s.connected then some { s with connected := s.connected.erase object } else none

def system : System MarshalingFactory MarshalEvent where
  init s := ∃ this memory o, s = new this memory o
  step := step

/-- The object handed over is the factory, or the class object it holds. -/
def HandsRight (s : MarshalingFactory) (call : MarshalCall) : Prop :=
  (s.standardMarshal call).object = s.unk ∨
    some (s.standardMarshal call).object = s.underlying

/-- What a step owes: a sound object, and nothing connected after a `DisconnectObject` that
succeeds. -/
def MarshalsRight (s : MarshalingFactory) : MarshalEvent → Prop
  | .call call coGetStandardMarshal hr =>
    s.HandsRight call ∧
      (call = .disconnectObject → failed (s.perform call coGetStandardMarshal hr).1 = false →
        (s.perform call coGetStandardMarshal hr).2.connected = [])
  | .release _ => True

/-- `m_underlyingUnk` is null or has a pointer that may be handed over. -/
def Defined (s : MarshalingFactory) : Prop :=
  s.underlyingUnk = none ∨ s.underlyingUnk = some s.unk ∨ s.underlyingUnk = s.underlying

/-- Nothing is connected but the factory. -/
def OnlyFactory (s : MarshalingFactory) : Prop :=
  ∀ p, s.underlyingUnk = some p → p ≠ s.unk → p ∉ s.connected

/-- What callers would have to see to, of a factory that was constructed soundly or not: no
foreign interface unless it was, and no `DisconnectObject` with the class object connected. -/
def Careful (sound : Prop) (s : MarshalingFactory) : MarshalEvent → Prop
  | .call call coGetStandardMarshal hr =>
    (call.foreign = true → sound) ∧
      (call = .disconnectObject → failed coGetStandardMarshal = false → failed hr = false →
        s.OnlyFactory)
  | .release _ => True

/-- What is connected has been picked by `GetInterfaceToBeMarshaled`. -/
def Picked (s : MarshalingFactory) : Prop :=
  ∀ p ∈ s.connected, p = s.unk ∨ s.underlyingUnk = some p

variable {s t : MarshalingFactory} {call : MarshalCall} {coGetStandardMarshal hr : HRESULT}

/-! ## The object that is picked -/

theorem getInterfaceToBeMarshaled_own {riid : IID}
    (h : riid = IID_IClassFactory ∨ riid = IID_IUnknown) :
    s.getInterfaceToBeMarshaled riid = s.unk := if_pos h

theorem getInterfaceToBeMarshaled_cases (s : MarshalingFactory) (riid : IID) :
    s.getInterfaceToBeMarshaled riid = s.unk ∨
      s.underlyingUnk = some (s.getInterfaceToBeMarshaled riid) := by
  unfold getInterfaceToBeMarshaled
  split_ifs
  · exact Or.inl rfl
  · cases s.underlyingUnk with
    | none => exact Or.inl rfl
    | some p => exact Or.inr rfl

theorem standardMarshal_own (hforeign : call.foreign = false) :
    (s.standardMarshal call).object = s.unk := by
  apply getInterfaceToBeMarshaled_own
  by_contra hneither
  exact absurd hforeign (by simpa [MarshalCall.foreign] using hneither)

theorem standardMarshal_foreign (hforeign : call.foreign = true) :
    (s.standardMarshal call).object = s.underlyingUnk.getD s.unk := by
  have hneither : ¬ (call.iid = IID_IClassFactory ∨ call.iid = IID_IUnknown) := by
    simpa [MarshalCall.foreign] using hforeign
  refine (if_neg hneither).trans ?_
  cases s.underlyingUnk <;> rfl

theorem handsRight_iff : s.HandsRight call ↔ (call.foreign = true → s.Defined) := by
  unfold HandsRight Defined
  cases hforeign : call.foreign with
  | false => simp [standardMarshal_own hforeign]
  | true =>
      rw [standardMarshal_foreign hforeign]
      cases s.underlyingUnk with
      | none => simp
      | some p => simp

/-- The constructor leaves a sound pointer whenever it gets the class object, and else
what the memory has. -/
theorem new_defined_iff (this : Nat) (memory : Option Nat) (o : Construction) :
    (new this memory o).Defined ↔ o.Sound this memory := by
  unfold new Defined Construction.Sound
  split_ifs with hfailed
  · rw [o.classObject_of_failed hfailed]
    simp [or_comm]
  · cases hclass : o.classObject with
    | none => simp [or_comm]
    | some classObject =>
        have hunknown := o.unknown_eq
        rw [hclass] at hunknown
        rcases hunknown with hnone | hsome
        · simp [hnone]
        · simp [hsome]

/-! ## One step -/

/-- The connections that a call leaves if it succeeds. -/
def leaves (s : MarshalingFactory) (call : MarshalCall) : List Nat :=
  match call with
  | .marshalInterface _ _ => s.connected ++ [(s.standardMarshal call).object]
  | .disconnectObject => s.connected.filter fun p => p ≠ s.unk
  | _ => s.connected

theorem perform_eq (s : MarshalingFactory) (call : MarshalCall)
    (coGetStandardMarshal hr : HRESULT) :
    s.perform call coGetStandardMarshal hr =
      (if failed coGetStandardMarshal then coGetStandardMarshal else hr,
        { s with connected :=
            if failed coGetStandardMarshal || failed hr then s.connected
            else s.leaves call }) := by
  have hown : (s.standardMarshal .disconnectObject).object = s.unk :=
    standardMarshal_own (by decide)
  unfold perform
  cases hget : failed coGetStandardMarshal with
  | true => rfl
  | false =>
      cases failed hr with
      | true => cases call <;> rfl
      | false =>
          cases call with
          | disconnectObject => simp [leaves, hown]
          | _ => rfl

theorem mem_leaves {p : Nat} (hp : p ∈ s.leaves call) :
    p ∈ s.connected ∨ p = (s.standardMarshal call).object := by
  cases call with
  | marshalInterface riid context => simpa [leaves] using hp
  | disconnectObject => exact Or.inl (List.mem_filter.mp hp).1
  | getUnmarshalClass riid context => exact Or.inl hp
  | getMarshalSizeMax riid context => exact Or.inl hp
  | unmarshalInterface riid => exact Or.inl hp
  | releaseMarshalData => exact Or.inl hp

/-- A step keeps the pointers, and connects no object that is not the one it picks. -/
theorem step_cases {a : MarshalEvent} (hstep : system.step s a = some t) :
    ∃ connected, t = { s with connected := connected } ∧
      ∀ p ∈ connected, p ∈ s.connected ∨ p = s.unk ∨ s.underlyingUnk = some p := by
  cases a with
  | call call coGetStandardMarshal hr =>
      obtain rfl := Option.some.inj hstep
      rw [perform_eq]
      refine ⟨_, rfl, fun p hp => ?_⟩
      split_ifs at hp
      · exact Or.inl hp
      · rcases mem_leaves hp with hold | rfl
        · exact Or.inl hold
        · exact Or.inr (s.getInterfaceToBeMarshaled_cases call.iid)
  | release object =>
      obtain ⟨-, hreleased⟩ := Option.ite_none_right_eq_some.mp hstep
      obtain rfl := Option.some.inj hreleased
      exact ⟨_, rfl, fun p hp => Or.inl (List.mem_of_mem_erase hp)⟩

theorem Picked.step {a : MarshalEvent} (h : s.Picked) (hstep : system.step s a = some t) :
    t.Picked := by
  obtain ⟨connected, rfl, hconnected⟩ := step_cases hstep
  intro p hp
  rcases hconnected p hp with hold | hpicked
  · exact h p hold
  · exact hpicked

/-- Disconnecting the factory leaves nothing exactly where nothing else is connected. -/
theorem disconnectObject_iff (h : s.Picked) :
    s.leaves .disconnectObject = [] ↔ s.OnlyFactory := by
  have hleft : s.leaves .disconnectObject = [] ↔ ∀ p ∈ s.connected, p = s.unk := by
    simp [leaves, List.filter_eq_nil_iff]
  rw [hleft]
  constructor
  · intro hall p _ hne hp
    exact hne (hall p hp)
  · intro honly p hp
    by_contra hne
    exact honly p ((h p hp).resolve_left hne) hne hp

theorem marshalsRight_iff {a : MarshalEvent} (h : s.Picked) :
    s.MarshalsRight a ↔ Careful s.Defined s a := by
  cases a with
  | release object => exact Iff.rfl
  | call call coGetStandardMarshal hr =>
      refine and_congr handsRight_iff (forall_congr' fun hcall => ?_)
      subst hcall
      rw [perform_eq]
      cases hget : failed coGetStandardMarshal with
      | true => simp [hget]
      | false =>
          cases hhr : failed hr with
          | true => simp [hhr]
          | false => simpa [hhr] using disconnectObject_iff h

theorem picked_new (this : Nat) (memory : Option Nat) (o : Construction) :
    (new this memory o).Picked := by
  have hnone : (new this memory o).connected = [] := by
    unfold new
    split_ifs
    · rfl
    · cases o.classObject <;> rfl
  intro p hp
  rw [hnone] at hp
  exact absurd hp List.not_mem_nil

theorem defined_step {a : MarshalEvent} (hstep : system.step s a = some t) :
    t.Defined ↔ s.Defined := by
  obtain ⟨connected, rfl, -⟩ := step_cases hstep
  exact Iff.rfl

/-- Over the life of a factory, every call hands over a sound object and every
`DisconnectObject` leaves nothing connected exactly when its callers are careful. -/
theorem marshals_iff (this : Nat) (memory : Option Nat) (o : Construction)
    {u : MarshalingFactory} {trace : List (MarshalingFactory × MarshalEvent)}
    (h : system.Run (new this memory o) trace u) :
    (∀ v ∈ trace, MarshalsRight v.1 v.2) ↔
      ∀ v ∈ trace, Careful (o.Sound this memory) v.1 v.2 := by
  apply h.steps_iff (P := MarshalsRight) (C := Careful (o.Sound this memory))
    (I := fun s => s.Picked ∧ (s.Defined ↔ o.Sound this memory))
  · intro s a t hs _ hstep
    exact ⟨hs.1.step hstep, (defined_step hstep).trans hs.2⟩
  · intro s a t hs _
    rw [marshalsRight_iff hs.1, propext hs.2]
  · exact ⟨picked_new this memory o, new_defined_iff this memory o⟩

/-! ## A class object, and none -/

/-- The class object that was looked up is at 2. -/
def found : Construction where
  coGetClassObject := S_OK
  classObject := some 2
  queryInterface := S_OK
  unknown := some 2
  classObject_of_failed := by decide
  unknown_of_failed := by decide
  unknown_eq := by decide

/-- The class is not there. -/
def notFound : Construction where
  coGetClassObject := CLASS_E_CLASSNOTAVAILABLE
  classObject := none
  queryInterface := S_OK
  unknown := none
  classObject_of_failed := by decide
  unknown_of_failed := by decide
  unknown_eq := by decide

theorem marshals_iff_dispatch :
    (∀ v ∈ [(new 1 none found, MarshalEvent.call (.marshalInterface IID_IDispatch {}) S_OK S_OK)],
        MarshalsRight v.1 v.2) ↔
      ∀ v ∈ [(new 1 none found,
          MarshalEvent.call (.marshalInterface IID_IDispatch {}) S_OK S_OK)],
        Careful (found.Sound 1 none) v.1 v.2 :=
  marshals_iff 1 none found (.cons rfl (.nil _))

/-- Without a class object, whatever is in the memory is handed over; with one, it stays
connected when the factory is disconnected. -/
theorem not_marshalsRight :
    ((new 1 (some 7) notFound).standardMarshal (.marshalInterface IID_IDispatch {})).object = 7 ∧
      ¬ MarshalsRight (new 1 (some 7) notFound)
        (.call (.marshalInterface IID_IDispatch {}) S_OK S_OK) ∧
      system.exec (new 1 none found)
          [.call (.marshalInterface IID_IDispatch {}) S_OK S_OK] =
        some { new 1 none found with connected := [2] } ∧
      ¬ MarshalsRight { new 1 none found with connected := [2] }
        (.call .disconnectObject S_OK S_OK) := by
  refine ⟨by decide, ?_, by decide, ?_⟩
  · rintro ⟨hhands, -⟩
    exact absurd hhands (by unfold HandsRight; decide)
  · rintro ⟨-, hconnected⟩
    exact absurd (hconnected rfl (by decide)) (by decide)

end MarshalingFactory

end Axhost
