import Axhost.Registration.Surrogate

/-!
# The registrations that COM holds

What came of the calls a surrogate has made: the registrations it has made and not revoked, the
revocations it has tried, and whether the class objects of the process are suspended.
`Com.recorded` keeps this beside any COM, without a part in its answers.

A class object is suspended after a successful `CoSuspendClassObjects`, or when registered with
`REGCLS_SUSPENDED`, until a successful `CoResumeClassObjects`.
-/

namespace Axhost

structure ClassEntry where
  cookie : DWORD
  clsid : QUuid
  object : ClassObject
  clsctx : DWORD
  regcls : DWORD
  suspended : Bool
deriving DecidableEq, Repr

/-- `suspended` is that of the process; the entries have their own. -/
structure ClassTable where
  entries : List ClassEntry := []
  suspended : Bool := false
  revocations : List (DWORD × HRESULT) := []
deriving DecidableEq, Repr

namespace ClassTable

def cookies (table : ClassTable) : List DWORD := table.entries.map ClassEntry.cookie

/-- The entry for a registration that COM has given a cookie. -/
def entry (clsid : QUuid) (object : ClassObject) (clsctx regcls cookie : DWORD) : ClassEntry where
  cookie := cookie
  clsid := clsid
  object := object
  clsctx := clsctx
  regcls := regcls
  suspended := hasFlag regcls REGCLS_SUSPENDED

def register (table : ClassTable) (clsid : QUuid) (object : ClassObject) (clsctx regcls : DWORD)
    (result : HRESULT × DWORD) : ClassTable :=
  if failed result.1 then table
  else { table with
    entries := table.entries ++ [entry clsid object clsctx regcls result.2] }

def revoke (table : ClassTable) (cookie : DWORD) (hr : HRESULT) : ClassTable :=
  { table with
    entries :=
      if failed hr then table.entries else table.entries.filter fun e => e.cookie ≠ cookie
    revocations := table.revocations ++ [(cookie, hr)] }

def suspend (table : ClassTable) (hr : HRESULT) : ClassTable :=
  if failed hr then table else { table with suspended := true }

def resume (table : ClassTable) (hr : HRESULT) : ClassTable :=
  if failed hr then table
  else { table with
    suspended := false
    entries := table.entries.map fun e => { e with suspended := false } }

/-- The table has grown by these entries. -/
structure Adds (table table' : ClassTable) (entries : List ClassEntry) : Prop where
  entries_eq : table'.entries = table.entries ++ entries
  suspended_eq : table'.suspended = table.suspended

theorem Adds.refl (table : ClassTable) : Adds table table [] := ⟨by simp, rfl⟩

theorem Adds.trans {table table' table'' : ClassTable} {es es' : List ClassEntry}
    (h : Adds table table' es) (h' : Adds table' table'' es') : Adds table table'' (es ++ es') :=
  ⟨by rw [h'.entries_eq, h.entries_eq, List.append_assoc], h'.suspended_eq.trans h.suspended_eq⟩

theorem register_of_failed {table : ClassTable} {clsid : QUuid} {object : ClassObject}
    {clsctx regcls : DWORD} {result : HRESULT × DWORD} (h : failed result.1 = true) :
    table.register clsid object clsctx regcls result = table := if_pos h

theorem register_adds (table : ClassTable) (clsid : QUuid) (object : ClassObject)
    (clsctx regcls : DWORD) {result : HRESULT × DWORD} (h : failed result.1 = false) :
    Adds table (table.register clsid object clsctx regcls result)
      [entry clsid object clsctx regcls result.2] := by
  unfold register
  rw [if_neg (by simp [h])]
  exact ⟨rfl, rfl⟩

theorem register_cookies {table : ClassTable} {clsid : QUuid} {object : ClassObject}
    {clsctx regcls : DWORD} {result : HRESULT × DWORD} (h : failed result.1 = false) :
    (table.register clsid object clsctx regcls result).cookies = table.cookies ++ [result.2] := by
  unfold cookies
  rw [(register_adds table clsid object clsctx regcls h).entries_eq, List.map_append]
  rfl

theorem revoke_cookies (table : ClassTable) (cookie : DWORD) (hr : HRESULT) :
    (table.revoke cookie hr).cookies =
      if failed hr then table.cookies else table.cookies.filter fun k => k ≠ cookie := by
  unfold cookies revoke
  split_ifs
  · rfl
  · rw [List.filter_map]
    rfl

/-- No class object is suspended, by itself or with its process. -/
def Active (table : ClassTable) : Prop :=
  ∀ e ∈ table.entries, table.suspended = false ∧ e.suspended = false

instance (table : ClassTable) : Decidable table.Active :=
  inferInstanceAs (Decidable (∀ e ∈ table.entries, _))

theorem active_resume (table : ClassTable) {hr : HRESULT} (h : failed hr = false) :
    (table.resume hr).Active := by
  unfold resume
  rw [if_neg (by simp [h])]
  intro e he
  obtain ⟨e', -, rfl⟩ := List.mem_map.mp he
  exact ⟨rfl, rfl⟩

theorem not_active_of_suspended {table : ClassTable} {e : ClassEntry} (he : e ∈ table.entries)
    (h : table.suspended = true) : ¬ table.Active :=
  fun hactive => absurd (h.symm.trans (hactive e he).1) (by simp)

theorem active_resume_iff {table : ClassTable} {e : ClassEntry} (he : e ∈ table.entries)
    (h : table.suspended = true) (hr : HRESULT) :
    (table.resume hr).Active ↔ failed hr = false := by
  refine ⟨fun hactive => Bool.eq_false_iff.mpr fun hfailed => ?_, active_resume table⟩
  rw [resume, if_pos hfailed] at hactive
  exact not_active_of_suspended he h hactive

theorem mem_resume {table : ClassTable} {e : ClassEntry} (he : e ∈ table.entries) (hr : HRESULT) :
    ∃ suspended, { e with suspended := suspended } ∈ (table.resume hr).entries := by
  unfold resume
  split_ifs
  · exact ⟨e.suspended, he⟩
  · exact ⟨false, List.mem_map.mpr ⟨e, he, rfl⟩⟩

end ClassTable

/-- A COM with the record of what came of its calls. -/
def Com.recorded {γ : Type*} (com : Com γ) : Com (γ × ClassTable) where
  coGetClassObject s clsid clsctx :=
    let (result, state) := com.coGetClassObject s.1 clsid clsctx
    (result, (state, s.2))
  coRegisterClassObject s clsid object clsctx regcls :=
    let (result, state) := com.coRegisterClassObject s.1 clsid object clsctx regcls
    (result, (state, s.2.register clsid object clsctx regcls result))
  coRevokeClassObject s cookie :=
    let (hr, state) := com.coRevokeClassObject s.1 cookie
    (hr, (state, s.2.revoke cookie hr))
  getLastError s := com.getLastError s.1
  getLastErrorMessage := com.getLastErrorMessage

theorem Com.recorded_register {γ : Type*} (com : Com γ) (s : γ × ClassTable) (clsid : QUuid)
    (object : ClassObject) (clsctx regcls : DWORD) :
    (com.recorded.coRegisterClassObject s clsid object clsctx regcls).2.2 =
      s.2.register clsid object clsctx regcls
        (com.recorded.coRegisterClassObject s clsid object clsctx regcls).1 := rfl

end Axhost
