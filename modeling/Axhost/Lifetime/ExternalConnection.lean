import Axhost.Lib.Transition
import Axhost.Platform.Windows

/-!
# External connections

`external_connection.cc`, and the two methods of `container.cc` that hand a container's
connections to it.  The container and its `HostExternalConnection` are two objects, each
with an address of its own, and only the container is ever given to a client.

* `Connections.con_eq`: `m_con` is the number of outstanding connections, modulo `2 ^ 32`;
* `Connections.timely_iff`: when a closing release comes at the last connection only;
* `Connections.disconnects_iff`: when what is disconnected is right as well.
-/

namespace Axhost

open Transition

inductive ConnectionCall
  | addConnection (extconn reserved : DWORD)
  | releaseConnection (extconn reserved : DWORD) (fLastReleaseCloses : Bool)
deriving DecidableEq, Repr

namespace ConnectionCall

/-- A release that asks for the object to be closed with its last connection. -/
def closes : ConnectionCall → Bool
  | addConnection _ _ => false
  | releaseConnection _ _ fLastReleaseCloses => fLastReleaseCloses

/-- What becomes of `m_con`. -/
def counter : ConnectionCall → DWORD → DWORD
  | addConnection _ _, con => con + 1
  | releaseConnection _ _ _, con => con - 1

/-- The connections there are after the call; none can be released where there is none. -/
def count : ConnectionCall → Nat → Option Nat
  | addConnection _ _, n => some (n + 1)
  | releaseConnection _ _ _, n => if 0 < n then some (n - 1) else none

theorem count_eq_zero_iff {call : ConnectionCall} (hcloses : call.closes = true) (n : Nat) :
    call.count n = some 0 ↔ n = 1 := by
  cases call with
  | addConnection extconn reserved => exact absurd hcloses (by simp [closes])
  | releaseConnection extconn reserved fLastReleaseCloses =>
      rw [count, Option.ite_none_right_eq_some, Option.some_inj]
      omega

theorem counter_ofNat {call : ConnectionCall} {n m : Nat} (hcount : call.count n = some m) :
    call.counter (BitVec.ofNat 32 n) = BitVec.ofNat 32 m := by
  cases call with
  | addConnection extconn reserved =>
      obtain rfl : n + 1 = m := by simpa [count] using hcount
      exact (BitVec.ofNat_add n 1).symm
  | releaseConnection extconn reserved fLastReleaseCloses =>
      obtain ⟨hpos, rfl⟩ : 0 < n ∧ n - 1 = m := by simpa [count] using hcount
      have hone : (1 : DWORD).toNat = 1 := rfl
      apply BitVec.eq_of_toNat_eq
      rw [counter, BitVec.toNat_sub, BitVec.toNat_ofNat, BitVec.toNat_ofNat, hone]
      omega

end ConnectionCall

/-- `underlying` has the calls that the underlying object received, if there is one. -/
structure HostExternalConnection where
  this : Nat
  con : DWORD := 0
  underlying : Option (List ConnectionCall) := none
deriving DecidableEq, Repr

namespace HostExternalConnection

/-- A call to the underlying object; `answer` is what that returns. -/
def underlyingCall (ec : HostExternalConnection) (call : ConnectionCall) (n answer : DWORD) :
    DWORD × HostExternalConnection :=
  match ec.underlying with
  | some calls => (answer, { ec with underlying := some (calls ++ [call]) })
  | none => (n, ec)

def addConnection (ec : HostExternalConnection) (extconn reserved answer : DWORD) :
    DWORD × HostExternalConnection :=
  let ec := { ec with con := ec.con + 1 }
  ec.underlyingCall (.addConnection extconn reserved) ec.con answer

/-- The last component has the objects handed to `CoDisconnectObject`, whose result is not
looked at. -/
def releaseConnection (ec : HostExternalConnection) (extconn reserved : DWORD)
    (fLastReleaseCloses : Bool) (answer : DWORD) : DWORD × HostExternalConnection × List Nat :=
  let ec := { ec with con := ec.con - 1 }
  let (n, ec) := ec.underlyingCall (.releaseConnection extconn reserved fLastReleaseCloses)
    ec.con answer
  if fLastReleaseCloses then (n, ec, [ec.this]) else (n, ec, [])

theorem underlyingCall_eq (ec : HostExternalConnection) (call : ConnectionCall)
    (n answer : DWORD) :
    ec.underlyingCall call n answer = (if ec.underlying.isSome then answer else n,
      { ec with underlying := ec.underlying.map (· ++ [call]) }) := by
  obtain ⟨this, con, underlying⟩ := ec
  cases underlying <;> rfl

end HostExternalConnection

/-- A container, as far as it is connected: its address, the `m_externalConnection` it
made, the connections that are outstanding and the objects disconnected so far. -/
structure Connections where
  this : Nat
  externalConnection : HostExternalConnection
  outstanding : Nat := 0
  disconnected : List Nat := []
deriving DecidableEq, Repr

namespace Connections

/-- `HostContainer::AddConnection` and `HostContainer::ReleaseConnection`, with the answer
of the underlying object: the result, the new `m_externalConnection` and the objects
handed to `CoDisconnectObject`. -/
def call (s : Connections) :
    ConnectionCall × DWORD → DWORD × HostExternalConnection × List Nat
  | (.addConnection extconn reserved, answer) =>
    let (n, ec) := s.externalConnection.addConnection extconn reserved answer
    (n, ec, [])
  | (.releaseConnection extconn reserved fLastReleaseCloses, answer) =>
    s.externalConnection.releaseConnection extconn reserved fLastReleaseCloses answer

def result (s : Connections) (a : ConnectionCall × DWORD) : DWORD := (s.call a).1

/-- The objects that a call disconnects. -/
def disconnects (s : Connections) (a : ConnectionCall × DWORD) : List Nat := (s.call a).2.2

/-- A call that releases no more than there is. -/
def step (s : Connections) (a : ConnectionCall × DWORD) : Option Connections :=
  (a.1.count s.outstanding).map fun outstanding =>
    { s with
      externalConnection := (s.call a).2.1
      outstanding := outstanding
      disconnected := s.disconnected ++ s.disconnects a }

/-- A container is two objects from its construction on. -/
def system : System Connections (ConnectionCall × DWORD) where
  init s := s.externalConnection.this ≠ s.this ∧ s.externalConnection.con = 0 ∧
    s.outstanding = 0 ∧ s.disconnected = []
  step := step

/-- Something is disconnected only by a closing release of the last connection. -/
def Timely (s : Connections) (a : ConnectionCall × DWORD) : Prop :=
  s.disconnects a ≠ [] → a.1.closes = true ∧ a.1.count s.outstanding = some 0

/-- And it is the container. -/
def DisconnectsRight (s : Connections) (a : ConnectionCall × DWORD) : Prop :=
  s.Timely a ∧ ∀ object ∈ s.disconnects a, object = s.this

/-- What the calls keep: `m_con` counts, and its object is not the container. -/
structure Counted (s : Connections) : Prop where
  this_ne : s.externalConnection.this ≠ s.this
  con : s.externalConnection.con = BitVec.ofNat 32 s.outstanding
  disconnected : ∀ object ∈ s.disconnected, object = s.externalConnection.this

/-- What a call does: `m_con` counts it whether or not there is an underlying object, and
only the flag decides whether anything is disconnected. -/
theorem call_eq (s : Connections) (a : ConnectionCall × DWORD) :
    s.call a =
      (if s.externalConnection.underlying.isSome then a.2
        else a.1.counter s.externalConnection.con,
        { s.externalConnection with
          con := a.1.counter s.externalConnection.con
          underlying := s.externalConnection.underlying.map (· ++ [a.1]) },
        if a.1.closes then [s.externalConnection.this] else []) := by
  obtain ⟨⟨extconn, reserved⟩ | ⟨extconn, reserved, closes⟩, answer⟩ := a
  · simp only [call, HostExternalConnection.addConnection,
      HostExternalConnection.underlyingCall_eq]
    rfl
  · simp only [call, HostExternalConnection.releaseConnection,
      HostExternalConnection.underlyingCall_eq]
    cases closes <;> rfl

theorem disconnects_eq (s : Connections) (a : ConnectionCall × DWORD) :
    s.disconnects a = if a.1.closes then [s.externalConnection.this] else [] := by
  rw [disconnects, call_eq]

theorem disconnects_eq_nil_iff (s : Connections) (a : ConnectionCall × DWORD) :
    s.disconnects a = [] ↔ a.1.closes = false := by
  rw [disconnects_eq]
  cases a.1.closes <;> simp

theorem Counted.of_init {s : Connections} (hs : system.init s) : Counted s where
  this_ne := hs.1
  con := by rw [hs.2.1, hs.2.2.1]; rfl
  disconnected := by rw [hs.2.2.2]; exact List.forall_mem_nil _

theorem Counted.step {s t : Connections} {a : ConnectionCall × DWORD} (h : Counted s)
    (hstep : system.step s a = some t) : Counted t := by
  obtain ⟨n, hn, rfl⟩ := Option.map_eq_some_iff.mp hstep
  rw [call_eq]
  refine ⟨h.this_ne, ?_, ?_⟩
  · exact (congrArg a.1.counter h.con).trans (ConnectionCall.counter_ofNat hn)
  · intro object hobject
    rcases List.mem_append.mp hobject with hold | hnew
    · exact h.disconnected object hold
    · rw [disconnects_eq] at hnew
      split at hnew
      · exact List.mem_singleton.mp hnew
      · exact absurd hnew (List.not_mem_nil)

theorem counted {s : Connections} (h : system.Reachable s) : Counted s :=
  h.induct (fun _ hs => .of_init hs) (fun _ _ _ _ hcounted hstep => hcounted.step hstep)

theorem con_eq {s : Connections} (h : system.Reachable s) :
    s.externalConnection.con = BitVec.ofNat 32 s.outstanding := (counted h).con

theorem timely_step_iff (s : Connections) (a : ConnectionCall × DWORD) :
    s.Timely a ↔ (a.1.closes = true → s.outstanding = 1) := by
  rw [Timely, ne_eq, disconnects_eq_nil_iff, Bool.not_eq_false]
  exact forall_congr' fun hcloses =>
    (and_iff_right hcloses).trans (ConnectionCall.count_eq_zero_iff hcloses _)

/-- The time is right exactly when the closing releases are those of a last connection:
`ReleaseConnection` itself looks at the flag only. -/
theorem timely_iff {s u : Connections}
    {trace : List (Connections × ConnectionCall × DWORD)} (h : system.Run s trace u) :
    (∀ v ∈ trace, Timely v.1 v.2) ↔
      ∀ v ∈ trace, v.2.1.closes = true → v.1.outstanding = 1 := by
  exact h.steps_iff (I := fun _ => True) (fun _ _ _ _ _ _ => trivial)
    (fun s a _ _ _ => timely_step_iff s a) trivial

theorem disconnectsRight_step_iff {s : Connections} {a : ConnectionCall × DWORD}
    (h : Counted s) : s.DisconnectsRight a ↔ a.1.closes = false := by
  constructor
  · rintro ⟨-, hobject⟩
    by_contra hcloses
    rw [disconnects_eq, if_pos (by simpa using hcloses), List.forall_mem_singleton] at hobject
    exact h.this_ne hobject
  · intro hcloses
    have hnil : s.disconnects a = [] := (disconnects_eq_nil_iff s a).mpr hcloses
    exact ⟨fun hne => absurd hnil hne, by rw [hnil]; exact List.forall_mem_nil _⟩

/-- `CoDisconnectObject` is called for the right object at the right time exactly in the
runs that never call it. -/
theorem disconnects_iff {s u : Connections}
    {trace : List (Connections × ConnectionCall × DWORD)} (hs : system.Reachable s)
    (h : system.Run s trace u) :
    (∀ v ∈ trace, DisconnectsRight v.1 v.2) ↔ ∀ v ∈ trace, v.2.1.closes = false := by
  exact h.steps_iff (P := DisconnectsRight) (I := Counted) (C := fun _ a => a.1.closes = false)
    (fun _ _ _ hcounted _ hstep => hcounted.step hstep)
    (fun _ _ _ hcounted _ => disconnectsRight_step_iff hcounted) (counted hs)

/-- A container that no client has connected to yet. -/
def fresh : Connections := { this := 0, externalConnection := { this := 1 } }

theorem init_fresh : system.init fresh := ⟨by decide, rfl, rfl, rfl⟩

def connected (n : Nat) : Connections :=
  { fresh with externalConnection := { this := 1, con := BitVec.ofNat 32 n }, outstanding := n }

/-- Two clients connect, and the second to leave asks for the object to be closed. -/
def twoClients : List (Connections × ConnectionCall × DWORD) :=
  [(connected 0, .addConnection 1 0, 0), (connected 1, .addConnection 1 0, 0),
    (connected 2, .releaseConnection 1 0 false, 0), (connected 1, .releaseConnection 1 0 true, 0)]

theorem disconnects_iff_add_release :
    (∀ v ∈ twoClients, DisconnectsRight v.1 v.2) ↔ ∀ v ∈ twoClients, v.2.1.closes = false :=
  disconnects_iff (.init init_fresh)
    (.cons (by decide) (.cons (by decide) (.cons (by decide) (.cons rfl (.nil _)))))

/-- Two clients, and the first to leave asks for the object to be closed with the last
connection: the other one is still connected, and not to the object that is disconnected. -/
theorem not_disconnectsRight_of_two_clients :
    system.exec fresh [(.addConnection 1 0, 0), (.addConnection 1 0, 0)] =
        some { fresh with externalConnection := { this := 1, con := 2 }, outstanding := 2 } ∧
      disconnects
        { fresh with externalConnection := { this := 1, con := 2 }, outstanding := 2 }
        (.releaseConnection 1 0 true, 0) = [1] ∧
      ¬ DisconnectsRight
        { fresh with externalConnection := { this := 1, con := 2 }, outstanding := 2 }
        (.releaseConnection 1 0 true, 0) := by
  refine ⟨by decide, by decide, ?_⟩
  rintro ⟨htimely, -⟩
  exact absurd (htimely (by decide)).2 (by decide)

end Connections

end Axhost
