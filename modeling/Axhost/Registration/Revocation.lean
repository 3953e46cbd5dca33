import Axhost.Lib.Transition
import Axhost.Registration.ClassTable
import Mathlib.Data.List.Nodup
import Mathlib.Data.Set.Basic

/-!
# The cookies are the registrations

`m_cookies` through every operation of a surrogate, whatever COM answers.  One load can make
two registrations, which fail independently, and a revocation that fails leaves its cookie in
the set.

* `HostSurrogate.exact`: one operation keeps the set exact;
* `HostSurrogate.cookies_exact`: it is exact in every state, and from every state
  `RevokeAllClassFactories` tries each registration once and keeps those it could not revoke.
-/

namespace Axhost

open Transition

/-- The cookies that COM has given and not taken back, of this surrogate and of others. -/
structure LiveCookies {γ : Type*} (com : Com γ) (live : γ → Set DWORD) : Prop where
  get_live : ∀ s clsid clsctx, live s ⊆ live (com.coGetClassObject s clsid clsctx).2
  register_live : ∀ s clsid object clsctx regcls,
    live s ⊆ live (com.coRegisterClassObject s clsid object clsctx regcls).2
  register_fresh : ∀ s clsid object clsctx regcls,
    failed (com.coRegisterClassObject s clsid object clsctx regcls).1.1 = false →
      (com.coRegisterClassObject s clsid object clsctx regcls).1.2 ∉ live s ∧
      (com.coRegisterClassObject s clsid object clsctx regcls).1.2 ∈
        live (com.coRegisterClassObject s clsid object clsctx regcls).2
  revoke_live : ∀ s cookie k, k ∈ live s →
    k ≠ cookie ∨ failed (com.coRevokeClassObject s cookie).1 = true →
      k ∈ live (com.coRevokeClassObject s cookie).2

namespace HostSurrogate

variable {γ : Type*} {com : Com γ} {live : γ → Set DWORD}

/-- The set has the cookies of the registrations that are there, each of them once. -/
structure Exact (live : γ → Set DWORD) (s : HostSurrogate (γ × ClassTable)) : Prop where
  nodup : s.cookies.Nodup
  perm : s.cookies.Perm s.com.2.cookies
  live : ∀ k ∈ s.cookies, k ∈ live s.com.1

theorem Exact.congr {s t : HostSurrogate (γ × ClassTable)} (hs : Exact live s)
    (hcookies : t.cookies = s.cookies) (hcom : t.com = s.com) : Exact live t := by
  refine ⟨?_, ?_, ?_⟩
  · rw [hcookies]
    exact hs.nodup
  · rw [hcookies, hcom]
    exact hs.perm
  · rw [hcookies, hcom]
    exact hs.live

theorem Exact.get (hlive : LiveCookies com live) {s : HostSurrogate (γ × ClassTable)}
    (hs : Exact live s) (clsid : QUuid) (clsctx : DWORD) :
    Exact live { s with com := (com.recorded.coGetClassObject s.com clsid clsctx).2 } :=
  ⟨hs.nodup, hs.perm, fun k hk => hlive.get_live _ clsid clsctx (hs.live k hk)⟩

theorem Exact.register_failed (hlive : LiveCookies com live) {s : HostSurrogate (γ × ClassTable)}
    (hs : Exact live s) {clsid : QUuid} {object : ClassObject} {clsctx regcls : DWORD}
    (hfailed : failed
      (com.recorded.coRegisterClassObject s.com clsid object clsctx regcls).1.1 = true) :
    Exact live { s with
      com := (com.recorded.coRegisterClassObject s.com clsid object clsctx regcls).2 } := by
  refine ⟨hs.nodup, ?_, fun k hk => hlive.register_live _ _ _ _ _ (hs.live k hk)⟩
  dsimp only
  rw [com.recorded_register, ClassTable.register_of_failed hfailed]
  exact hs.perm

theorem Exact.register (hlive : LiveCookies com live) {s : HostSurrogate (γ × ClassTable)}
    (hs : Exact live s) {clsid : QUuid} {object : ClassObject} {clsctx regcls : DWORD}
    (hok : failed
      (com.recorded.coRegisterClassObject s.com clsid object clsctx regcls).1.1 = false) :
    Exact live (insertCookie { s with
        com := (com.recorded.coRegisterClassObject s.com clsid object clsctx regcls).2 }
      (com.recorded.coRegisterClassObject s.com clsid object clsctx regcls).1.2) := by
  obtain ⟨hfresh, hgiven⟩ := hlive.register_fresh s.com.1 clsid object clsctx regcls hok
  set cookie := (com.recorded.coRegisterClassObject s.com clsid object clsctx regcls).1.2
    with hcookie
  have hnew : cookie ∉ s.cookies := fun hk => hfresh (hs.live cookie hk)
  have hinsert : s.cookies.insert cookie = cookie :: s.cookies := List.insert_of_not_mem hnew
  have htable : (com.recorded.coRegisterClassObject s.com clsid object clsctx regcls).2.2.cookies =
      s.com.2.cookies ++ [cookie] := by
    rw [com.recorded_register, ClassTable.register_cookies hok]
  unfold insertCookie
  rw [hinsert]
  refine ⟨List.nodup_cons.mpr ⟨hnew, hs.nodup⟩, ?_, fun k hk => ?_⟩
  · rw [htable]
    exact (hs.perm.cons cookie).trans (List.perm_append_singleton cookie _).symm
  · rcases List.mem_cons.mp hk with rfl | hold
    · exact hgiven
    · exact hlive.register_live _ _ _ _ _ (hs.live k hold)

/-! ## Loading -/

theorem findOriginal_exact (hlive : LiveCookies com live) (args : LoadDllServerExArgs)
    {s : HostSurrogate (γ × ClassTable)} (hs : Exact live s) :
    Exact live (findOriginal com.recorded args s).2 := by
  have hget := hs.get hlive args.clsid args.clsctxCreate
  unfold findOriginal
  dsimp only
  split
  · split
    · exact hget.congr rfl rfl
    · exact hget
  · exact hs

theorem registerOriginal_exact (hlive : LiveCookies com live) (args : LoadDllServerExArgs)
    (original : Option ClassObject) {s : HostSurrogate (γ × ClassTable)} (hs : Exact live s) :
    Exact live (registerOriginal com.recorded args original s) := by
  unfold registerOriginal
  cases original with
  | none => exact hs
  | some original =>
      dsimp only
      split
      · next hok => exact hs.register hlive (by simpa using hok)
      · next hfailed => exact hs.register_failed hlive (by simpa using hfailed)

theorem loadDllServerEx_exact (hlive : LiveCookies com live) (args : LoadDllServerExArgs)
    {s : HostSurrogate (γ × ClassTable)} (hs : Exact live s) :
    Exact live (loadDllServerEx com.recorded args s).2 := by
  have hcall : Exact live { s with loads := s.loads ++ [args] } := hs.congr rfl rfl
  have hfind := findOriginal_exact hlive args hcall
  have hfactory := hfind.get hlive args.clsid args.clsctxCreate
  unfold loadDllServerEx
  dsimp only
  split
  · next hfailed => exact hfactory.register_failed hlive hfailed
  · next hok =>
    exact registerOriginal_exact hlive args _ (hfactory.register hlive (Bool.eq_false_iff.mpr hok))

theorem registerLoop_exact (hlive : LiveCookies com live) (regcls : DWORD)
    (specs : List ClassSpec) (hrOverall : HRESULT) {s : HostSurrogate (γ × ClassTable)}
    (hs : Exact live s) : Exact live (registerLoop com.recorded regcls specs hrOverall s).2 := by
  induction specs generalizing hrOverall s with
  | nil => exact hs
  | cons spec specs ih =>
      have hload := loadDllServerEx_exact hlive (loadArgs (spec.sanitize regcls)) hs
      rw [registerLoop]
      dsimp only
      split
      · exact ih _ (hload.congr rfl rfl)
      · exact ih _ hload

/-! ## Revoking -/

theorem Exact.revoke_failed (hlive : LiveCookies com live) {s : HostSurrogate (γ × ClassTable)}
    (hs : Exact live s) {cookie : DWORD}
    (hfailed : failed (com.recorded.coRevokeClassObject s.com cookie).1 = true) :
    Exact live { s with com := (com.recorded.coRevokeClassObject s.com cookie).2 } := by
  refine ⟨hs.nodup, ?_, fun k hk => hlive.revoke_live _ _ k (hs.live k hk) (Or.inr hfailed)⟩
  have htable := ClassTable.revoke_cookies s.com.2 cookie
    (com.recorded.coRevokeClassObject s.com cookie).1
  rw [if_pos hfailed] at htable
  exact hs.perm.trans (List.Perm.of_eq htable.symm)

theorem Exact.revoke (hlive : LiveCookies com live) {s : HostSurrogate (γ × ClassTable)}
    (hs : Exact live s) {cookie : DWORD}
    (hok : failed (com.recorded.coRevokeClassObject s.com cookie).1 = false) :
    Exact live { s with
      com := (com.recorded.coRevokeClassObject s.com cookie).2
      cookies := s.cookies.erase cookie } := by
  have htable := ClassTable.revoke_cookies s.com.2 cookie
    (com.recorded.coRevokeClassObject s.com cookie).1
  rw [if_neg (by simp [hok])] at htable
  have herase : s.cookies.erase cookie = s.cookies.filter fun k => k ≠ cookie := by
    rw [hs.nodup.erase_eq_filter]
    refine List.filter_congr fun k _ => ?_
    by_cases hk : k = cookie <;> simp [hk]
  refine ⟨hs.nodup.erase cookie, ?_, fun k hk => ?_⟩
  · refine List.Perm.trans ?_ (List.Perm.of_eq htable.symm)
    rw [herase]
    exact hs.perm.filter _
  · obtain ⟨hne, hmem⟩ := hs.nodup.mem_erase_iff.mp hk
    exact hlive.revoke_live _ _ k (hs.live k hmem) (Or.inl hne)

/-- What an execution of the loop does with the attempts it makes: it keeps the cookies that it
did not revoke, and fails when one of its attempts does. -/
structure Revokes (s : HostSurrogate (γ × ClassTable)) (hrOverall : HRESULT)
    (r : HRESULT × HostSurrogate (γ × ClassTable)) (attempts : List (DWORD × HRESULT)) : Prop where
  revocations : r.2.com.2.revocations = s.com.2.revocations ++ attempts
  kept : ∀ k, k ∈ r.2.cookies ↔
    k ∈ s.cookies ∧ ∀ a ∈ attempts, a.1 = k → failed a.2 = true
  result : failed r.1 = true ↔ failed hrOverall = true ∨ ∃ a ∈ attempts, failed a.2 = true

theorem revokeLoop_spec (hlive : LiveCookies com live) (rest : List DWORD) :
    ∀ (hrOverall : HRESULT) {s : HostSurrogate (γ × ClassTable)}, Exact live s →
      Exact live (revokeLoop com.recorded rest hrOverall s).2 ∧
        ∃ attempts, attempts.map Prod.fst = rest ∧
          Revokes s hrOverall (revokeLoop com.recorded rest hrOverall s) attempts := by
  induction rest with
  | nil =>
      intro hrOverall s hs
      exact ⟨hs, [], rfl, by simp [revokeLoop], by simp [revokeLoop], by simp [revokeLoop]⟩
  | cons cookie rest ih =>
      intro hrOverall s hs
      have hlog : (com.recorded.coRevokeClassObject s.com cookie).2.2.revocations =
          s.com.2.revocations ++ [(cookie, (com.recorded.coRevokeClassObject s.com cookie).1)] :=
        rfl
      rw [revokeLoop]
      dsimp only
      cases hfailed : failed (com.recorded.coRevokeClassObject s.com cookie).1 with
      | false =>
          rw [if_pos (by simp [hfailed])]
          obtain ⟨hexact, attempts, hmap, hrevocations, hkept, hresult⟩ :=
            ih hrOverall (hs.revoke hlive hfailed)
          refine ⟨hexact, (cookie, (com.recorded.coRevokeClassObject s.com cookie).1) :: attempts,
            by rw [List.map_cons, hmap], ?_, fun k => ?_, ?_⟩
          · rw [hrevocations, hlog, List.append_assoc, List.singleton_append]
          · rw [hkept k, hs.nodup.mem_erase_iff, List.forall_mem_cons, hfailed]
            have hne : (cookie = k → false = true) ↔ k ≠ cookie := by simp [eq_comm]
            rw [hne, and_left_comm, and_assoc]
          · rw [hresult, List.exists_mem_cons_iff, hfailed]
            simp
      | true =>
          rw [if_neg (by simp [hfailed])]
          obtain ⟨hexact, attempts, hmap, hrevocations, hkept, hresult⟩ :=
            ih (if succeeded hrOverall then (com.recorded.coRevokeClassObject s.com cookie).1
              else hrOverall) (hs.revoke_failed hlive hfailed)
          refine ⟨hexact, (cookie, (com.recorded.coRevokeClassObject s.com cookie).1) :: attempts,
            by rw [List.map_cons, hmap], ?_, fun k => ?_, ?_⟩
          · rw [hrevocations, hlog, List.append_assoc, List.singleton_append]
          · rw [hkept k, List.forall_mem_cons, hfailed]
            simp
          · rw [hresult, List.exists_mem_cons_iff, hfailed]
            cases hbefore : failed hrOverall <;> simp [hbefore, hfailed]

/-- `RevokeAllClassFactories` as it should be: each registration is tried once, those whose
revocation failed are kept, and it succeeds when none is left. -/
structure RevokesAll (s : HostSurrogate (γ × ClassTable))
    (r : HRESULT × HostSurrogate (γ × ClassTable)) (attempts : List (DWORD × HRESULT)) : Prop where
  revocations : r.2.com.2.revocations = s.com.2.revocations ++ attempts
  once : (attempts.map Prod.fst).Perm s.com.2.cookies
  kept : ∀ k, k ∈ r.2.cookies ↔ ∃ hr, (k, hr) ∈ attempts ∧ failed hr = true
  result : succeeded r.1 = true ↔ r.2.cookies = []

theorem revokeAllClassFactories_exact (hlive : LiveCookies com live) (iteration : Iteration)
    {s : HostSurrogate (γ × ClassTable)} (hs : Exact live s) :
    Exact live (revokeAllClassFactories com.recorded iteration s).2 :=
  (revokeLoop_spec hlive _ S_OK hs).1

theorem revokeAllClassFactories_all (hlive : LiveCookies com live) (iteration : Iteration)
    {s : HostSurrogate (γ × ClassTable)} (hs : Exact live s) : ∃ attempts,
    RevokesAll s (revokeAllClassFactories com.recorded iteration s) attempts := by
  obtain ⟨-, attempts, hmap, hrevocations, hkept, hresult⟩ :=
    revokeLoop_spec hlive (iteration.visit s.cookies) S_OK hs
  have honce : (attempts.map Prod.fst).Perm s.cookies := by
    rw [hmap]
    exact iteration.perm s.cookies
  have hnodup : (attempts.map Prod.fst).Nodup := honce.nodup_iff.mpr hs.nodup
  have hfails : ∀ k, k ∈ (revokeAllClassFactories com.recorded iteration s).2.cookies ↔
      ∃ hr, (k, hr) ∈ attempts ∧ failed hr = true := by
    intro k
    refine (hkept k).trans ⟨?_, ?_⟩
    · rintro ⟨hmem, hall⟩
      obtain ⟨a, ha, rfl⟩ := List.mem_map.mp (honce.mem_iff.mpr hmem)
      exact ⟨a.2, ha, hall a ha rfl⟩
    · rintro ⟨hr, ha, hfailed⟩
      refine ⟨honce.mem_iff.mp (List.mem_map_of_mem (f := Prod.fst) ha), fun b hb hkey => ?_⟩
      -- a cookie is tried once, so this is the attempt that failed
      obtain rfl := List.inj_on_of_nodup_map hnodup hb ha hkey
      exact hfailed
  refine ⟨attempts, hrevocations, honce.trans hs.perm, hfails, ?_⟩
  have hok : succeeded (revokeAllClassFactories com.recorded iteration s).1 = true ↔
      ¬ ∃ a ∈ attempts, failed a.2 = true := by
    have hstart : failed S_OK = false := by decide
    rw [succeeded_eq, Bool.not_eq_true', ← Bool.not_eq_true]
    refine not_congr (hresult.trans ?_)
    simp [hstart]
  rw [hok, List.eq_nil_iff_forall_not_mem]
  constructor
  · rintro hnone k hk
    obtain ⟨hr, ha, hfailed⟩ := (hfails k).mp hk
    exact hnone ⟨(k, hr), ha, hfailed⟩
  · rintro hempty ⟨a, ha, hfailed⟩
    exact hempty a.1 ((hfails a.1).mpr ⟨a.2, ha, hfailed⟩)

/-! ## The operations of a surrogate -/

end HostSurrogate

inductive SurrogateCall
  | loadDllServer (clsid : QUuid)
  | loadDllServerEx (args : LoadDllServerExArgs)
  | registerAllClassFactories (specs : List ClassSpec) (suspend : Bool) (regcls : DWORD)
  | revokeAllClassFactories (iteration : Iteration)
  | freeSurrogate (iteration : Iteration) (invoked : Bool)

namespace HostSurrogate

variable {γ : Type*} {live : γ → Set DWORD}

def call (com : Com γ) (s : HostSurrogate γ) : SurrogateCall → HostSurrogate γ
  | .loadDllServer clsid => (loadDllServer com clsid s).2
  | .loadDllServerEx args => (loadDllServerEx com args s).2
  | .registerAllClassFactories specs suspend regcls =>
    (registerAllClassFactories com specs suspend regcls s).2
  | .revokeAllClassFactories iteration => (revokeAllClassFactories com iteration s).2
  | .freeSurrogate iteration invoked => (freeSurrogate com iteration invoked s).2

/-- A surrogate that starts without registrations, in any state of COM. -/
def system (com : Com γ) : System (HostSurrogate (γ × ClassTable)) SurrogateCall where
  init s := ∃ state, s = { com := (state, {}) }
  step s c := some (s.call com.recorded c)

variable {com : Com γ}

theorem exact (hlive : LiveCookies com live) {s : HostSurrogate (γ × ClassTable)}
    (hs : Exact live s) (c : SurrogateCall) : Exact live (s.call com.recorded c) := by
  cases c with
  | loadDllServer clsid => exact loadDllServerEx_exact hlive _ hs
  | loadDllServerEx args => exact loadDllServerEx_exact hlive args hs
  | registerAllClassFactories specs suspend regcls =>
      exact registerLoop_exact hlive _ specs S_OK hs
  | revokeAllClassFactories iteration => exact revokeAllClassFactories_exact hlive iteration hs
  | freeSurrogate iteration invoked => exact revokeAllClassFactories_exact hlive iteration hs

theorem reachable_exact (hlive : LiveCookies com live) {s : HostSurrogate (γ × ClassTable)}
    (hreach : (system com).Reachable s) : Exact live s := by
  refine hreach.induct ?_ ?_
  · rintro _ ⟨state, rfl⟩
    exact ⟨List.nodup_nil, .nil, by simp⟩
  · intro s c t _ hs hstep
    obtain rfl := Option.some.inj hstep
    exact exact hlive hs c

/-- After any operations, the cookies are those of the registrations made and not revoked, and
`RevokeAllClassFactories` revokes what it can and keeps the rest. -/
theorem cookies_exact (hlive : LiveCookies com live) {s : HostSurrogate (γ × ClassTable)}
    (hreach : (system com).Reachable s) :
    s.cookies.Nodup ∧ s.cookies.Perm s.com.2.cookies ∧
      ∀ iteration, ∃ attempts,
        RevokesAll s (revokeAllClassFactories com.recorded iteration s) attempts := by
  have hs := reachable_exact hlive hreach
  exact ⟨hs.nodup, hs.perm, fun iteration => revokeAllClassFactories_all hlive iteration hs⟩

/-! ## A COM that numbers its registrations -/

/-- Cookies are given in order, until they are used up; the odd ones cannot be revoked. -/
def numbering : Com Nat where
  coGetClassObject s _ _ := ((E_NOINTERFACE, none), s)
  coRegisterClassObject s _ _ _ _ :=
    if s < 2 ^ 32 then ((S_OK, BitVec.ofNat 32 s), s + 1) else ((E_OUTOFMEMORY, 0), s)
  coRevokeClassObject s cookie :=
    (if cookie.toNat % 2 = 1 then E_FAIL else S_OK, s)
  getLastError _ := 0
  getLastErrorMessage _ := []

theorem numbering_live : LiveCookies numbering fun s => { k | k.toNat < s } where
  get_live _ _ _ _ hk := hk
  register_live s _ _ _ _ k hk := by
    have hlt : k.toNat < s := hk
    unfold numbering
    dsimp only
    split_ifs
    · exact Nat.lt_succ_of_lt hlt
    · exact hlt
  register_fresh s clsid object clsctx regcls hok := by
    unfold numbering at hok ⊢
    dsimp only at hok ⊢
    split_ifs at hok ⊢ with hlt
    · have hnat : (BitVec.ofNat 32 s).toNat = s := by
        rw [BitVec.toNat_ofNat, Nat.mod_eq_of_lt hlt]
      constructor
      · show ¬ (BitVec.ofNat 32 s).toNat < s
        omega
      · show (BitVec.ofNat 32 s).toNat < s + 1
        omega
    · have hfails : failed E_OUTOFMEMORY = true := by decide
      rw [hfails] at hok
      exact absurd hok (by simp)
  revoke_live _ _ _ hk _ := hk

/-- Two loads, of which the second cannot be revoked. -/
theorem cookies_exact_numbering :
    let s := ((({ com := (0, {}) } : HostSurrogate (Nat × ClassTable)).call
      numbering.recorded (.loadDllServer 1)).call numbering.recorded (.loadDllServer 2))
    s.cookies.Nodup ∧ s.cookies.Perm s.com.2.cookies ∧
      ∀ iteration, ∃ attempts,
        RevokesAll s (revokeAllClassFactories numbering.recorded iteration s) attempts := by
  intro s
  exact cookies_exact numbering_live
    (.step (.loadDllServer 2) (.step (.loadDllServer 1) (.init ⟨0, rfl⟩) rfl) rfl)

end HostSurrogate

end Axhost
