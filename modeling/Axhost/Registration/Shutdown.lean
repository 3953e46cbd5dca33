import Axhost.Registration.Revocation
import Axhost.Registration.Startup

/-!
# Ending a standalone host

The destructor of `RunAsStandalone` suspends the class objects, revokes them, and resumes what is
left.  Between the constructor and the destructor COM changes by itself: it suspends the class
objects whenever the last server reference goes.

* `RunAsStandalone.destroy_new`: what a host leaves in the table at the end of its life, whatever
  COM has answered in it.
-/

namespace Axhost

open HostSurrogate

namespace ClassTable

theorem suspend_cookies (table : ClassTable) (hr : HRESULT) :
    (table.suspend hr).cookies = table.cookies := by
  unfold suspend
  split_ifs <;> rfl

theorem resume_cookies (table : ClassTable) (hr : HRESULT) :
    (table.resume hr).cookies = table.cookies := by
  unfold resume
  split_ifs
  · rfl
  · unfold cookies
    rw [List.map_map]
    rfl

theorem suspend_revocations (table : ClassTable) (hr : HRESULT) :
    (table.suspend hr).revocations = table.revocations := by
  unfold suspend
  split_ifs <;> rfl

theorem resume_revocations (table : ClassTable) (hr : HRESULT) :
    (table.resume hr).revocations = table.revocations := by
  unfold resume
  split_ifs <;> rfl

theorem suspend_suspended {table : ClassTable} {hr : HRESULT} (h : failed hr = false) :
    (table.suspend hr).suspended = true := by
  unfold suspend
  rw [if_neg (by simp [h])]

theorem cookies_eq_nil {table : ClassTable} : table.cookies = [] ↔ table.entries = [] :=
  List.map_eq_nil_iff

end ClassTable

/-- The calls of a standalone host keep the cookies that COM has given. -/
structure LiveStandalone {γ : Type*} (com : StandaloneCom γ) (live : γ → Set DWORD) : Prop where
  calls : LiveCookies com.toCom live
  suspend_live : ∀ s, live s ⊆ live (com.coSuspendClassObjects s).2
  resume_live : ∀ s, live s ⊆ live (com.coResumeClassObjects s).2

/-- What COM does by itself: it gives and takes cookies of others, and suspends and resumes. -/
structure Elapses {γ : Type*} (live : γ → Set DWORD) (s t : γ × ClassTable) : Prop where
  live : live s.1 ⊆ live t.1
  cookies_eq : t.2.cookies = s.2.cookies
  revocations_eq : t.2.revocations = s.2.revocations

namespace RunAsStandalone

variable {γ : Type*} (com : StandaloneCom γ)

/-- The destructor, with the results of suspending and resuming. -/
def destroy (iteration : Iteration) (s : HostSurrogate γ) :
    (HRESULT × Option HRESULT) × HostSurrogate γ :=
  let (sus, state) := com.coSuspendClassObjects s.com
  let (_, s) := revokeAllClassFactories com.toCom iteration { s with com := state }
  if succeeded sus && s.hasRegisteredClass then
    let (res, state) := com.coResumeClassObjects s.com
    ((sus, some res), { s with com := state })
  else ((sus, none), s)

variable {com} {live : γ → Set DWORD} {s : HostSurrogate (γ × ClassTable)}

/-! ## The set of cookies -/

theorem elapsed_exact (hs : Exact live s) {state : γ × ClassTable}
    (helapses : Elapses live s.com state) : Exact live { s with com := state } := by
  refine ⟨hs.nodup, ?_, fun k hk => helapses.live (hs.live k hk)⟩
  dsimp only
  rw [helapses.cookies_eq]
  exact hs.perm

theorem suspend_elapses (hlive : LiveStandalone com live) (s : γ × ClassTable) :
    Elapses live s (com.recorded.coSuspendClassObjects s).2 :=
  ⟨hlive.suspend_live s.1, ClassTable.suspend_cookies _ _, ClassTable.suspend_revocations _ _⟩

theorem resume_elapses (hlive : LiveStandalone com live) (s : γ × ClassTable) :
    Elapses live s (com.recorded.coResumeClassObjects s).2 :=
  ⟨hlive.resume_live s.1, ClassTable.resume_cookies _ _, ClassTable.resume_revocations _ _⟩

theorem registered_exact (hlive : LiveStandalone com live) (specs : List ClassSpec)
    (regcls : DWORD) (state : γ) :
    Exact live (registered com.recorded specs regcls (state, {})).2 := by
  have hnone : Exact live (suspended com.recorded (state, {})).2 := by
    refine ⟨List.nodup_nil, List.Perm.of_eq ?_, fun k hk => absurd hk List.not_mem_nil⟩
    exact (ClassTable.cookies_eq_nil.mpr (suspended_entries com state)).symm
  exact registerLoop_exact hlive.calls _ specs S_OK hnone

theorem new_exact (hlive : LiveStandalone com live) (specs : List ClassSpec) (readyEvent : Bool)
    (regcls : DWORD) (state : γ) :
    Exact live (new com.recorded specs readyEvent regcls (state, {})).surrogate := by
  have hs := registered_exact hlive specs regcls state
  unfold new
  dsimp only
  split_ifs
  · exact elapsed_exact hs (resume_elapses hlive _)
  · exact hs

/-! ## The record of the revocations -/

theorem register_revocations (table : ClassTable) (clsid : QUuid) (object : ClassObject)
    (clsctx regcls : DWORD) (result : HRESULT × DWORD) :
    (table.register clsid object clsctx regcls result).revocations = table.revocations := by
  unfold ClassTable.register
  split_ifs <;> rfl

theorem registerOriginal_revocations (com : Com γ) (args : LoadDllServerExArgs)
    (original : Option ClassObject) (s : HostSurrogate (γ × ClassTable)) :
    (registerOriginal com.recorded args original s).com.2.revocations = s.com.2.revocations := by
  unfold registerOriginal
  cases original with
  | none => rfl
  | some original =>
      dsimp only
      split_ifs
      · exact register_revocations _ _ _ _ _ _
      · exact register_revocations _ _ _ _ _ _

theorem loadDllServerEx_revocations (com : Com γ) (args : LoadDllServerExArgs)
    (s : HostSurrogate (γ × ClassTable)) :
    (loadDllServerEx com.recorded args s).2.com.2.revocations = s.com.2.revocations := by
  obtain ⟨original, reg, state, s₁, htable, -, hreg, hload⟩ := loadDllServerEx_recorded com args s
  have hstate : state.2.revocations = s.com.2.revocations := by
    rw [state_eq hreg, register_revocations, htable]
  rw [hload]
  split_ifs
  · exact hstate
  · exact (registerOriginal_revocations com args original _).trans hstate

theorem registerLoop_revocations (com : Com γ) (regcls : DWORD) (specs : List ClassSpec)
    (hrOverall : HRESULT) (s : HostSurrogate (γ × ClassTable)) :
    (registerLoop com.recorded regcls specs hrOverall s).2.com.2.revocations =
      s.com.2.revocations := by
  induction specs generalizing hrOverall s with
  | nil => rfl
  | cons spec specs ih =>
      have hload := loadDllServerEx_revocations com (loadArgs (spec.sanitize regcls)) s
      rw [registerLoop]
      dsimp only
      split_ifs
      · exact (ih _ _).trans hload
      · exact (ih _ _).trans hload
      · exact (ih _ _).trans hload

theorem new_revocations (hlive : LiveStandalone com live) (specs : List ClassSpec)
    (readyEvent : Bool) (regcls : DWORD) (state : γ) :
    (new com.recorded specs readyEvent regcls (state, {})).surrogate.com.2.revocations = [] := by
  have hregistered : (registered com.recorded specs regcls (state, {})).2.com.2.revocations = [] :=
    (registerLoop_revocations com.toCom _ specs S_OK _).trans
      (suspend_elapses hlive (state, {})).revocations_eq
  unfold new
  dsimp only
  split_ifs
  · exact (resume_elapses hlive _).revocations_eq.trans hregistered
  · exact hregistered

/-! ## The destructor -/

theorem revokeLoop_table (com : Com γ) (rest : List DWORD) (hrOverall : HRESULT)
    (s : HostSurrogate (γ × ClassTable)) :
    (revokeLoop com.recorded rest hrOverall s).2.com.2.entries.Sublist s.com.2.entries ∧
      (revokeLoop com.recorded rest hrOverall s).2.com.2.suspended = s.com.2.suspended := by
  induction rest generalizing hrOverall s with
  | nil => exact ⟨List.Sublist.refl _, rfl⟩
  | cons cookie rest ih =>
      have hrevoke : (com.recorded.coRevokeClassObject s.com cookie).2.2.entries.Sublist
          s.com.2.entries := by
        dsimp only [Com.recorded, ClassTable.revoke]
        split_ifs
        · exact List.Sublist.refl _
        · exact List.filter_sublist
      rw [revokeLoop]
      dsimp only
      split_ifs
      · exact (ih _ _).imp_left fun hsub => hsub.trans hrevoke
      · exact (ih _ _).imp_left fun hsub => hsub.trans hrevoke
      · exact (ih _ _).imp_left fun hsub => hsub.trans hrevoke

/-- What a host leaves at its end: it has tried to revoke each of its registrations once, and has
left those it could not revoke.  They are resumed, if they were suspended for that, and otherwise
as they were before. -/
structure ShutDown (table : ClassTable) (r : (HRESULT × Option HRESULT) × HostSurrogate
    (γ × ClassTable)) (attempts : List (DWORD × HRESULT)) : Prop where
  once : (attempts.map Prod.fst).Perm table.cookies
  left : ∀ k, k ∈ r.2.com.2.cookies ↔ ∃ hr, (k, hr) ∈ attempts ∧ failed hr = true
  known : r.2.cookies.Perm r.2.com.2.cookies
  resumes : r.1.2.isSome = true ↔ succeeded r.1.1 = true ∧ r.2.com.2.entries ≠ []
  active : succeeded r.1.1 = true → (r.2.com.2.Active ↔ ∀ res ∈ r.1.2, failed res = false)
  unchanged : failed r.1.1 = true →
    r.2.com.2.entries.Sublist table.entries ∧ r.2.com.2.suspended = table.suspended

theorem hasRegisteredClass_iff (hs : Exact live s) :
    s.hasRegisteredClass = true ↔ s.com.2.entries ≠ [] := by
  have hlength := hs.perm.length_eq
  unfold ClassTable.cookies at hlength
  rw [List.length_map] at hlength
  unfold hasRegisteredClass
  rw [Bool.not_eq_true', List.isEmpty_eq_false_iff, ← List.length_pos_iff, ← List.length_pos_iff,
    hlength]

theorem shutDown_resumed {table : ClassTable} {attempts : List (DWORD × HRESULT)} {sus : HRESULT}
    (hlive : LiveStandalone com live) (hs : Exact live s)
    (honce : (attempts.map Prod.fst).Perm table.cookies)
    (hkept : ∀ k, k ∈ s.cookies ↔ ∃ hr, (k, hr) ∈ attempts ∧ failed hr = true)
    (hsus : succeeded sus = true) (hflag : s.com.2.suspended = true)
    (hhas : s.hasRegisteredClass = true) :
    ShutDown table ((sus, some (com.recorded.coResumeClassObjects s.com).1),
      { s with com := (com.recorded.coResumeClassObjects s.com).2 }) attempts := by
  have hresumed := elapsed_exact hs (resume_elapses hlive s.com)
  have hne := (hasRegisteredClass_iff hs).mp hhas
  obtain ⟨e, he⟩ := List.exists_mem_of_ne_nil _ hne
  refine ⟨honce, fun k => ?_, hresumed.perm, iff_of_true rfl ⟨hsus, ?_⟩, fun _ => ?_, ?_⟩
  · exact hresumed.perm.symm.mem_iff.trans (hkept k)
  · exact (hasRegisteredClass_iff hresumed).mp hhas
  · exact (ClassTable.active_resume_iff he hflag _).trans
      ⟨fun hok res hres => Option.some.inj hres ▸ hok, fun hall => hall _ rfl⟩
  · intro hfailed
    rw [succeeded_eq] at hsus
    simp [hfailed] at hsus

theorem destroy_shutDown (hlive : LiveStandalone com live) (iteration : Iteration)
    (hs : Exact live s) : ∃ attempts,
    (destroy com.recorded iteration s).2.com.2.revocations = s.com.2.revocations ++ attempts ∧
      ShutDown s.com.2 (destroy com.recorded iteration s) attempts := by
  have hsuspend := suspend_elapses hlive s.com
  have hsuspended := elapsed_exact hs hsuspend
  obtain ⟨attempts, hrevocations, honce, hkept, -⟩ :=
    revokeAllClassFactories_all hlive.calls iteration hsuspended
  have hrevoked := revokeAllClassFactories_exact hlive.calls iteration hsuspended
  obtain ⟨hentries, hflag⟩ := revokeLoop_table com.toCom
    (iteration.visit s.cookies) S_OK { s with com := (com.recorded.coSuspendClassObjects s.com).2 }
  have htried := honce.trans (List.Perm.of_eq hsuspend.cookies_eq)
  have htable : (com.recorded.coSuspendClassObjects s.com).2.2 =
      s.com.2.suspend (com.recorded.coSuspendClassObjects s.com).1 := rfl
  refine ⟨attempts, ?_, ?_⟩
  · refine Eq.trans ?_ (hrevocations.trans (congrArg (· ++ attempts) hsuspend.revocations_eq))
    unfold destroy
    dsimp only
    split_ifs
    · exact (resume_elapses hlive _).revocations_eq
    · rfl
  · unfold destroy
    dsimp only
    split_ifs with hresume
    · rw [Bool.and_eq_true, succeeded_eq, Bool.not_eq_true'] at hresume
      refine shutDown_resumed hlive hrevoked htried hkept ?_ ?_ hresume.2
      · rw [succeeded_eq, hresume.1, Bool.not_false]
      · exact hflag.trans ((congrArg ClassTable.suspended htable).trans
          (ClassTable.suspend_suspended hresume.1))
    · -- nothing is left, or the class objects could not be suspended
      have hleft := hasRegisteredClass_iff hrevoked
      refine ⟨htried, fun k => hrevoked.perm.symm.mem_iff.trans (hkept k), hrevoked.perm,
        iff_of_false (by simp) fun h => hresume ?_, fun hsus => ?_, fun hfailed => ?_⟩
      · exact (Bool.and_eq_true _ _).mpr ⟨h.1, hleft.mpr h.2⟩
      · refine iff_of_true (fun e he => absurd ?_ hresume) (by simp)
        exact (Bool.and_eq_true _ _).mpr ⟨hsus, hleft.mpr (List.ne_nil_of_mem he)⟩
      · have hsame : (com.recorded.coSuspendClassObjects s.com).2.2 = s.com.2 :=
          htable.trans (if_pos hfailed)
        exact ⟨hsame ▸ hentries, hflag.trans (congrArg ClassTable.suspended hsame)⟩

/-- The life of a standalone host, from its constructor through whatever COM does in between to
its destructor: each of its registrations is revoked once, or tried to be, and those that could
not be revoked are left. -/
theorem destroy_new (hlive : LiveStandalone com live) (specs : List ClassSpec)
    (readyEvent : Bool) (regcls : DWORD) (state : γ) {state' : γ × ClassTable}
    (helapses : Elapses live
      (new com.recorded specs readyEvent regcls (state, {})).surrogate.com state')
    (iteration : Iteration) : ∃ attempts, ∃ final : (HRESULT × Option HRESULT) ×
        HostSurrogate (γ × ClassTable),
      final = destroy com.recorded iteration { (new com.recorded specs readyEvent regcls
        (state, {})).surrogate with com := state' } ∧
      final.2.com.2.revocations = attempts ∧ ShutDown state'.2 final attempts ∧
      (attempts.map Prod.fst).Perm
        (new com.recorded specs readyEvent regcls (state, {})).surrogate.com.2.cookies := by
  have hs := elapsed_exact (new_exact hlive specs readyEvent regcls state) helapses
  obtain ⟨attempts, hrevocations, hdown⟩ := destroy_shutDown hlive iteration hs
  refine ⟨attempts, _, rfl, ?_, hdown, ?_⟩
  · rw [hrevocations, helapses.revocations_eq, new_revocations hlive, List.nil_append]
  · exact hdown.once.trans (List.Perm.of_eq helapses.cookies_eq)

/-! ## A COM that numbers its registrations -/

def numberingStandalone : StandaloneCom Nat where
  toCom := numbering
  coSuspendClassObjects s := (S_OK, s)
  coResumeClassObjects s := (S_OK, s)

theorem numberingStandalone_live :
    LiveStandalone numberingStandalone fun s => { k | k.toNat < s } where
  calls := numbering_live
  suspend_live _ _ hk := hk
  resume_live _ _ hk := hk

def inOrder : Iteration := ⟨id, fun cookies => .refl cookies⟩

/-- Two classes, of which the second cannot be revoked, after the last client has gone. -/
theorem destroy_new_numbering :
    let host := new numberingStandalone.recorded [{ clsid := 1 }, { clsid := 2 }] true 0 (0, {})
    let state' := (host.surrogate.com.1, { host.surrogate.com.2 with suspended := true })
    ∃ attempts, ∃ final : (HRESULT × Option HRESULT) × HostSurrogate (Nat × ClassTable),
      final = destroy numberingStandalone.recorded inOrder
        { host.surrogate with com := state' } ∧
      final.2.com.2.revocations = attempts ∧ ShutDown state'.2 final attempts ∧
      (attempts.map Prod.fst).Perm host.surrogate.com.2.cookies := by
  intro host state'
  have helapses : Elapses (fun s => { k | k.toNat < s }) host.surrogate.com state' :=
    ⟨fun _ hk => hk, rfl, rfl⟩
  exact destroy_new numberingStandalone_live _ true 0 0 helapses inOrder

end RunAsStandalone

end Axhost
