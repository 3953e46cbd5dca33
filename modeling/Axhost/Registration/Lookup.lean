import Mathlib.Data.List.Nodup
import Axhost.Registration.ClassTable

/-!
# What an in-process lookup finds

A host container makes its control with an in-process lookup of the source class.  COM shows
such a lookup the local servers of the process too, when they serve more than one client, so
that the surrogate registers the original class factories beside its own.

* `ClassTable.Finds`: what a lookup may give, from the registrations and the DLLs;
* `HostSurrogate.own_iff`: when every source is left with the class object of its DLL;
* `HostSurrogate.not_own_chained`: an alias that is the source of a later specification.
-/

namespace Axhost

namespace ClassEntry

/-- Registered for lookups inside the process. -/
def explicit (e : ClassEntry) : Bool := hasFlag e.clsctx CLSCTX_INPROC_SERVER

/-- Shown to them by COM itself. -/
def automatic (e : ClassEntry) : Bool :=
  hasFlag e.clsctx CLSCTX_LOCAL_SERVER && hasFlag e.regcls REGCLS_MULTIPLEUSE

end ClassEntry

namespace ClassTable

def explicit (table : ClassTable) (clsid : QUuid) : List ClassEntry :=
  table.entries.filter fun e => e.clsid == clsid && e.explicit

def automatic (table : ClassTable) (clsid : QUuid) : List ClassEntry :=
  table.entries.filter fun e => e.clsid == clsid && e.automatic

/-- An in-process lookup prefers an explicit registration, then an automatic one, then the DLL
of the class.  Suspension makes no difference to it. -/
inductive Finds (dll : QUuid → Option Nat) (table : ClassTable) (clsid : QUuid) :
    Option ClassObject → Prop
  | explicit {e : ClassEntry} (he : e ∈ table.explicit clsid) : Finds dll table clsid e.object
  | automatic {e : ClassEntry} (hexplicit : table.explicit clsid = [])
      (he : e ∈ table.automatic clsid) : Finds dll table clsid e.object
  | dll (hexplicit : table.explicit clsid = []) (hautomatic : table.automatic clsid = []) :
      Finds dll table clsid ((dll clsid).map ClassObject.foreign)

variable {dll : QUuid → Option Nat} {table : ClassTable} {clsid : QUuid}
  {object : Option ClassObject}

theorem mem_explicit {e : ClassEntry} :
    e ∈ table.explicit clsid ↔ e ∈ table.entries ∧ e.clsid = clsid ∧ e.explicit = true := by
  simp [explicit]

theorem mem_automatic {e : ClassEntry} :
    e ∈ table.automatic clsid ↔ e ∈ table.entries ∧ e.clsid = clsid ∧ e.automatic = true := by
  simp [automatic]

theorem explicit_eq_nil : table.explicit clsid = [] ↔
    ∀ e ∈ table.entries, e.clsid = clsid → e.explicit = false := by
  simp [explicit]

theorem automatic_eq_nil : table.automatic clsid = [] ↔
    ∀ e ∈ table.entries, e.clsid = clsid → e.automatic = false := by
  simp [automatic]

theorem Finds.eq_dll (h : Finds dll table clsid object)
    (hnone : ∀ e ∈ table.entries, e.clsid ≠ clsid) :
    object = (dll clsid).map ClassObject.foreign := by
  cases h with
  | explicit he => exact absurd (mem_explicit.mp he).2.1 (hnone _ (mem_explicit.mp he).1)
  | automatic _ he => exact absurd (mem_automatic.mp he).2.1 (hnone _ (mem_automatic.mp he).1)
  | dll => rfl

theorem Finds.eq_explicit (h : Finds dll table clsid object) {e : ClassEntry}
    (he : e ∈ table.explicit clsid)
    (honly : ∀ e' ∈ table.explicit clsid, e'.object = e.object) : object = some e.object := by
  cases h with
  | explicit he' => rw [honly _ he']
  | automatic hexplicit => exact absurd (hexplicit ▸ he) List.not_mem_nil
  | dll hexplicit => exact absurd (hexplicit ▸ he) List.not_mem_nil

theorem Finds.isSome (h : Finds dll table clsid object) (hdll : (dll clsid).isSome = true) :
    object.isSome = true := by
  cases h with
  | explicit | automatic => rfl
  | dll => simpa using hdll

end ClassTable

/-- A COM whose in-process lookups follow the registrations of the process and the DLLs. -/
structure InProcess {γ : Type*} (com : Com γ) (table : γ → ClassTable)
    (dll : QUuid → Option Nat) : Prop where
  finds : ∀ s clsid, ClassTable.Finds dll (table s) clsid
    (com.coGetClassObject s clsid CLSCTX_INPROC_SERVER).1.2
  get : ∀ s clsid clsctx, table (com.coGetClassObject s clsid clsctx).2 = table s
  register : ∀ s clsid object clsctx regcls,
    table (com.coRegisterClassObject s clsid object clsctx regcls).2 =
      (table s).register clsid object clsctx regcls
        (com.coRegisterClassObject s clsid object clsctx regcls).1

/-- What makes the surrogate register the original of a specification. -/
structure ClassSpec.MultipleUse (spec : ClassSpec) : Prop where
  clsctxCreate : spec.clsctxCreate = CLSCTX_INPROC_SERVER
  clsctxRegister : spec.clsctxRegister = CLSCTX_LOCAL_SERVER
  regcls : hasFlag spec.regcls REGCLS_MULTIPLEUSE = true

namespace HostSurrogate

variable {γ : Type*} {com : Com γ} {table : γ → ClassTable} {dll : QUuid → Option Nat}

/-- An in-process lookup of the class, as a host container makes it. -/
def inProcess (com : Com γ) (s : HostSurrogate γ) (clsid : QUuid) : Option ClassObject :=
  (com.coGetClassObject s.com clsid CLSCTX_INPROC_SERVER).1.2

theorem findOriginal_multipleUse (hcom : InProcess com table dll) {spec : ClassSpec}
    (hspec : spec.MultipleUse) (s : HostSurrogate γ) :
    ClassTable.Finds dll (table s.com) spec.clsid (findOriginal com (loadArgs spec) s).1 ∧
      table (findOriginal com (loadArgs spec) s).2.com = table s.com := by
  have hcreate : hasFlag CLSCTX_INPROC_SERVER CLSCTX_INPROC_SERVER &&
      !hasFlag CLSCTX_INPROC_SERVER CLSCTX_LOCAL_SERVER := by decide
  have hlocal : hasFlag CLSCTX_LOCAL_SERVER CLSCTX_LOCAL_SERVER = true := by decide
  have hfinds := hcom.finds s.com spec.clsid
  have hget := hcom.get s.com spec.clsid CLSCTX_INPROC_SERVER
  unfold findOriginal loadArgs
  dsimp only
  rw [hspec.clsctxCreate, hspec.clsctxRegister, hspec.regcls, hlocal,
    if_pos (by simpa using hcreate)]
  split
  · exact ⟨hfinds, hget⟩
  · exact ⟨hfinds, hget⟩

/-- The two registrations of a load: the automatic one of the factory for the alias, and the
explicit one of the original for the source. -/
def factoryEntry (spec : ClassSpec) (cookie : DWORD) : ClassEntry :=
  ClassTable.entry spec.aliasClsid (.hostContainerFactory spec.clsid spec.clsctxCreate)
    spec.clsctxRegister spec.regcls cookie

def originalEntry (spec : ClassSpec) (original : ClassObject) (cookie : DWORD) : ClassEntry :=
  ClassTable.entry spec.clsid original spec.clsctxCreate
    (REGCLS_MULTIPLEUSE ||| REGCLS_MULTI_SEPARATE) cookie

/-- Every registration succeeds. -/
def RegistersEvery (com : Com γ) : Prop := ∀ s clsid object clsctx regcls,
  failed (com.coRegisterClassObject s clsid object clsctx regcls).1.1 = false

theorem register_entries (hcom : InProcess com table dll) (hregisters : RegistersEvery com)
    (s : γ) (clsid : QUuid) (object : ClassObject) (clsctx regcls : DWORD) : ∃ cookie,
    (table (com.coRegisterClassObject s clsid object clsctx regcls).2).entries =
      (table s).entries ++ [ClassTable.entry clsid object clsctx regcls cookie] := by
  rw [hcom.register]
  exact ⟨_, (ClassTable.register_adds _ _ _ _ _ (hregisters _ _ _ _ _)).entries_eq⟩

theorem registerOriginal_entries (hcom : InProcess com table dll)
    (hregisters : RegistersEvery com) (spec : ClassSpec) (original : ClassObject)
    (s : HostSurrogate γ) : ∃ cookie,
    (table (registerOriginal com (loadArgs spec) (some original) s).com).entries =
      (table s.com).entries ++ [originalEntry spec original cookie] := by
  obtain ⟨cookie, hentries⟩ := register_entries hcom hregisters s.com spec.clsid original
    spec.clsctxCreate (REGCLS_MULTIPLEUSE ||| REGCLS_MULTI_SEPARATE)
  refine ⟨cookie, Eq.trans ?_ hentries⟩
  unfold registerOriginal loadArgs
  dsimp only
  split
  · rfl
  · rfl

/-- What a load adds: the original is what a lookup gave before. -/
theorem loadDllServerEx_entries (hcom : InProcess com table dll)
    (hregisters : RegistersEvery com) {spec : ClassSpec} (hspec : spec.MultipleUse)
    (hdll : (dll spec.clsid).isSome = true) (s : HostSurrogate γ) :
    failed (loadDllServerEx com (loadArgs spec) s).1 = false ∧ ∃ original cookie cookie',
      ClassTable.Finds dll (table s.com) spec.clsid (some original) ∧
      (table (loadDllServerEx com (loadArgs spec) s).2.com).entries =
        (table s.com).entries ++
          [factoryEntry spec cookie, originalEntry spec original cookie'] := by
  obtain ⟨hfinds, hfound⟩ :=
    findOriginal_multipleUse hcom hspec { s with loads := s.loads ++ [loadArgs spec] }
  obtain ⟨original, horiginal⟩ := Option.isSome_iff_exists.mp (hfinds.isSome hdll)
  obtain ⟨found, s₁, reg, state, rfl, hs₁, hreg, hload⟩ :=
    loadDllServerEx_cases com (loadArgs spec) s
  -- the factory's own lookup leaves the table alone
  have hbefore : table s₁.com = table s.com := by
    rw [hs₁]
    exact (hcom.get _ _ _).trans hfound
  have hok := hregisters s₁.com (loadArgs spec).aliasClsid
    (.hostContainerFactory (loadArgs spec).clsid (loadArgs spec).clsctxCreate)
    (loadArgs spec).clsctxRegister (loadArgs spec).regcls
  obtain ⟨cookie, hfactory⟩ := register_entries hcom hregisters s₁.com (loadArgs spec).aliasClsid
    (.hostContainerFactory (loadArgs spec).clsid (loadArgs spec).clsctxCreate)
    (loadArgs spec).clsctxRegister (loadArgs spec).regcls
  rw [hreg, hbefore] at hfactory
  rw [hreg] at hok
  obtain ⟨cookie', hadded⟩ := registerOriginal_entries hcom hregisters spec original
    ({ s₁ with com := state }.insertCookie reg.2)
  rw [horiginal] at hfinds hload
  rw [hload, if_neg (by simp [hok])]
  refine ⟨hok, original, cookie, cookie', hfinds, hadded.trans ?_⟩
  exact (congrArg (· ++ _) hfactory).trans (List.append_assoc _ _ _)

theorem factoryEntry_explicit {spec : ClassSpec} (hspec : spec.MultipleUse) (cookie : DWORD) :
    (factoryEntry spec cookie).explicit = false := by
  show hasFlag spec.clsctxRegister CLSCTX_INPROC_SERVER = false
  rw [hspec.clsctxRegister]
  decide

theorem factoryEntry_automatic {spec : ClassSpec} (hspec : spec.MultipleUse) (cookie : DWORD) :
    (factoryEntry spec cookie).automatic = true := by
  show (hasFlag spec.clsctxRegister CLSCTX_LOCAL_SERVER && hasFlag spec.regcls _) = true
  rw [hspec.clsctxRegister, hspec.regcls]
  decide

theorem originalEntry_explicit {spec : ClassSpec} (hspec : spec.MultipleUse)
    (original : ClassObject) (cookie : DWORD) :
    (originalEntry spec original cookie).explicit = true := by
  show hasFlag spec.clsctxCreate CLSCTX_INPROC_SERVER = true
  rw [hspec.clsctxCreate]
  decide

theorem registerLoop_cons (hcom : InProcess com table dll) (hregisters : RegistersEvery com)
    {regcls : DWORD} {spec : ClassSpec} (specs : List ClassSpec)
    (hspec : (spec.sanitize regcls).MultipleUse) (hdll : (dll spec.clsid).isSome = true)
    (hrOverall : HRESULT) (s : HostSurrogate γ) : ∃ s' original cookie cookie',
    ClassTable.Finds dll (table s.com) spec.clsid (some original) ∧
      (table s'.com).entries = (table s.com).entries ++
        [factoryEntry (spec.sanitize regcls) cookie,
          originalEntry (spec.sanitize regcls) original cookie'] ∧
      (registerLoop com regcls (spec :: specs) hrOverall s).2 =
        (registerLoop com regcls specs hrOverall s').2 := by
  obtain ⟨hok, original, cookie, cookie', hfinds, hentries⟩ :=
    loadDllServerEx_entries hcom hregisters hspec (by simpa using hdll) s
  refine ⟨_, original, cookie, cookie', by simpa using hfinds, hentries, ?_⟩
  rw [registerLoop]
  dsimp only
  rw [if_neg (by simp [hok])]

/-- The loop adds explicit registrations for its own sources only. -/
theorem registerLoop_grows (hcom : InProcess com table dll) (hregisters : RegistersEvery com)
    {regcls : DWORD} {specs : List ClassSpec}
    (hspecs : ∀ spec ∈ specs, (spec.sanitize regcls).MultipleUse)
    (hdll : ∀ spec ∈ specs, (dll spec.clsid).isSome = true) (hrOverall : HRESULT)
    (s : HostSurrogate γ) : ∃ more,
    (table (registerLoop com regcls specs hrOverall s).2.com).entries =
        (table s.com).entries ++ more ∧
      ∀ e ∈ more, e.explicit = true → ∃ spec ∈ specs, e.clsid = spec.clsid := by
  induction specs generalizing s with
  | nil => exact ⟨[], by simp [registerLoop], by simp⟩
  | cons spec specs ih =>
      rw [List.forall_mem_cons] at hspecs hdll
      obtain ⟨s', original, cookie, cookie', -, hentries, hloop⟩ :=
        registerLoop_cons hcom hregisters specs hspecs.1 hdll.1 hrOverall s
      obtain ⟨more, hmore, hexplicit⟩ := ih hspecs.2 hdll.2 s'
      rw [hloop, hmore, hentries, List.append_assoc]
      refine ⟨_, rfl, fun e he hin => ?_⟩
      rcases List.mem_append.mp he with hfirst | hrest
      · rcases List.mem_pair.mp hfirst with rfl | rfl
        · exact absurd (hin.symm.trans (factoryEntry_explicit hspecs.1 cookie)) (by simp)
        · exact ⟨spec, List.mem_cons_self, ClassSpec.sanitize_clsid spec regcls⟩
      · obtain ⟨x, hx, hclsid⟩ := hexplicit e hrest hin
        exact ⟨x, List.mem_cons_of_mem _ hx, hclsid⟩

/-- The registrations for classes that are still to be loaded are factories of the host's own,
shown to in-process lookups by COM. -/
def Shadows (entries : List ClassEntry) (specs : List ClassSpec) : Prop :=
  ∀ e ∈ entries, ∀ spec ∈ specs, e.clsid = spec.clsid →
    e.explicit = false ∧ e.automatic = true ∧
      ∃ classId classContext, e.object = .hostContainerFactory classId classContext

/-- Then the original of a class is that of its DLL unless the class is shadowed. -/
theorem original_eq_iff {t : ClassTable} {spec : ClassSpec} {specs : List ClassSpec}
    (hshadows : Shadows t.entries (spec :: specs)) (hdll : (dll spec.clsid).isSome = true)
    {original : ClassObject} (hfinds : ClassTable.Finds dll t spec.clsid (some original)) :
    some original = (dll spec.clsid).map ClassObject.foreign ↔
      ∀ e ∈ t.entries, e.clsid ≠ spec.clsid := by
  refine ⟨fun heq e he hclsid => ?_, hfinds.eq_dll⟩
  obtain ⟨-, hautomatic, -⟩ := hshadows e he spec List.mem_cons_self hclsid
  have hnone : t.explicit spec.clsid = [] := ClassTable.explicit_eq_nil.mpr
    fun e he hclsid => (hshadows e he spec List.mem_cons_self hclsid).1
  generalize hobject : some original = object at hfinds heq
  cases hfinds with
  | explicit he' => exact absurd (hnone ▸ he') List.not_mem_nil
  | automatic _ he' =>
      obtain ⟨hmem, hclsid', -⟩ := ClassTable.mem_automatic.mp he'
      obtain ⟨-, -, classId, classContext, hfactory⟩ :=
        hshadows _ hmem spec List.mem_cons_self hclsid'
      obtain ⟨n, hn⟩ := Option.isSome_iff_exists.mp hdll
      rw [hfactory, hn] at heq
      simp at heq
  | dll _ hautomatic' =>
      exact absurd hautomatic (by simp [ClassTable.automatic_eq_nil.mp hautomatic' e he hclsid])

/-- Once its class is loaded, the shadows of the later ones are kept, and its alias may be one. -/
theorem Shadows.load {spec : ClassSpec} {specs : List ClassSpec} {entries : List ClassEntry}
    (hshadows : Shadows entries (spec :: specs)) {regcls : DWORD}
    (hspec : (spec.sanitize regcls).MultipleUse) (hsource : ∀ x ∈ specs, spec.clsid ≠ x.clsid)
    (original : ClassObject) (cookie cookie' : DWORD) :
    Shadows (entries ++ [factoryEntry (spec.sanitize regcls) cookie,
      originalEntry (spec.sanitize regcls) original cookie']) specs := by
  intro e he x hx hclsid
  rcases List.mem_append.mp he with hkept | hnew
  · exact hshadows e hkept x (List.mem_cons_of_mem _ hx) hclsid
  · rcases List.mem_pair.mp hnew with rfl | rfl
    · exact ⟨factoryEntry_explicit hspec cookie, factoryEntry_automatic hspec cookie, _, _, rfl⟩
    · exact absurd ((ClassSpec.sanitize_clsid spec regcls).symm.trans hclsid) (hsource x hx)

/-- What the lookup of a source gives in the end is the original that was found for it. -/
theorem inProcess_original (hcom : InProcess com table dll) {s s' : HostSurrogate γ}
    {spec : ClassSpec} {specs : List ClassSpec} {regcls : DWORD}
    (hspec : (spec.sanitize regcls).MultipleUse) (hsource : ∀ x ∈ specs, spec.clsid ≠ x.clsid)
    (hshadows : Shadows (table s.com).entries (spec :: specs)) {original : ClassObject}
    {cookie cookie' : DWORD} {more : List ClassEntry}
    (hentries : (table s'.com).entries = (table s.com).entries ++
      [factoryEntry (spec.sanitize regcls) cookie,
        originalEntry (spec.sanitize regcls) original cookie'] ++ more)
    (hmore : ∀ e ∈ more, e.explicit = true → ∃ x ∈ specs, e.clsid = x.clsid) :
    inProcess com s' spec.clsid = some original := by
  refine (hcom.finds s'.com spec.clsid).eq_explicit
    (e := originalEntry (spec.sanitize regcls) original cookie') ?_ fun e he => ?_
  · refine ClassTable.mem_explicit.mpr ⟨?_, ClassSpec.sanitize_clsid spec regcls,
      originalEntry_explicit hspec original cookie'⟩
    rw [hentries]
    simp
  · obtain ⟨hmem, hclsid, hin⟩ := ClassTable.mem_explicit.mp he
    rw [hentries] at hmem
    rcases List.mem_append.mp hmem with hfirst | hrest
    · rcases List.mem_append.mp hfirst with hold | hnew
      · have hshadow := hshadows e hold spec List.mem_cons_self hclsid
        exact absurd (hin.symm.trans hshadow.1) (by simp)
      · rcases List.mem_pair.mp hnew with rfl | rfl
        · exact absurd (hin.symm.trans (factoryEntry_explicit hspec cookie)) (by simp)
        · rfl
    · obtain ⟨x, hx, hxclsid⟩ := hmore e hrest hin
      exact absurd (hclsid.symm.trans hxclsid) (hsource x hx)

/-- After the loop every source has its DLL's class object, unless a registration from before
or the alias of an earlier specification shadows it. -/
theorem registerLoop_own_iff (hcom : InProcess com table dll) (hregisters : RegistersEvery com)
    {regcls : DWORD} {specs : List ClassSpec} (hsources : (specs.map ClassSpec.clsid).Nodup)
    (hspecs : ∀ spec ∈ specs, (spec.sanitize regcls).MultipleUse)
    (hdll : ∀ spec ∈ specs, (dll spec.clsid).isSome = true) (hrOverall : HRESULT)
    (s : HostSurrogate γ) (hshadows : Shadows (table s.com).entries specs) :
    (∀ spec ∈ specs, inProcess com (registerLoop com regcls specs hrOverall s).2 spec.clsid =
        (dll spec.clsid).map ClassObject.foreign) ↔
      (∀ spec ∈ specs, ∀ e ∈ (table s.com).entries, e.clsid ≠ spec.clsid) ∧
        specs.Pairwise fun x y => (x.sanitize regcls).aliasClsid ≠ y.clsid := by
  induction specs generalizing s with
  | nil => simp
  | cons spec specs ih =>
      rw [List.map_cons, List.nodup_cons] at hsources
      have hsource : ∀ x ∈ specs, spec.clsid ≠ x.clsid :=
        fun x hx heq => hsources.1 (heq ▸ List.mem_map_of_mem hx)
      rw [List.forall_mem_cons] at hspecs hdll
      obtain ⟨s', original, cookie, cookie', hfinds, hentries, hloop⟩ :=
        registerLoop_cons hcom hregisters specs hspecs.1 hdll.1 hrOverall s
      obtain ⟨more, hmore, hexplicit⟩ :=
        registerLoop_grows hcom hregisters hspecs.2 hdll.2 hrOverall s'
      have hlater := ih hsources.2 hspecs.2 hdll.2 s' (by
        rw [hentries]
        exact hshadows.load hspecs.1 hsource original cookie cookie')
      rw [hentries] at hmore
      have hfirst := inProcess_original hcom hspecs.1 hsource hshadows hmore hexplicit
      rw [hloop, List.forall_mem_cons, List.forall_mem_cons, List.pairwise_cons, hlater, hfirst,
        original_eq_iff hshadows hdll.1 hfinds]
      have hadded : (∀ x ∈ specs, ∀ e ∈ (table s'.com).entries, e.clsid ≠ x.clsid) ↔
          (∀ x ∈ specs, ∀ e ∈ (table s.com).entries, e.clsid ≠ x.clsid) ∧
            ∀ x ∈ specs, (spec.sanitize regcls).aliasClsid ≠ x.clsid := by
        rw [hentries]
        simp only [List.forall_mem_append, List.forall_mem_cons]
        constructor
        · intro h
          exact ⟨fun x hx => (h x hx).1, fun x hx => (h x hx).2.1⟩
        · rintro ⟨hold, halias⟩ x hx
          refine ⟨hold x hx, halias x hx, fun heq => hsource x hx ?_, by simp⟩
          exact (ClassSpec.sanitize_clsid spec regcls).symm.trans heq
      rw [hadded]
      tauto

/-- When a surrogate whose sources nothing is registered for leaves every source with the class
object of its DLL. -/
theorem own_iff (com : Com γ) (table : γ → ClassTable) (dll : QUuid → Option Nat)
    (hcom : InProcess com table dll) (hregisters : RegistersEvery com) (specs : List ClassSpec)
    (suspend : Bool) (regcls : DWORD) (s : HostSurrogate γ)
    (hsources : (specs.map ClassSpec.clsid).Nodup)
    (hspecs : ∀ spec ∈ specs, (spec.sanitize (mergedRegcls suspend regcls)).MultipleUse)
    (hdll : ∀ spec ∈ specs, (dll spec.clsid).isSome = true)
    (hnew : ∀ spec ∈ specs, ∀ e ∈ (table s.com).entries, e.clsid ≠ spec.clsid) :
    (∀ spec ∈ specs, inProcess com (registerAllClassFactories com specs suspend regcls s).2
        spec.clsid = (dll spec.clsid).map ClassObject.foreign) ↔
      specs.Pairwise fun x y =>
        (x.sanitize (mergedRegcls suspend regcls)).aliasClsid ≠ y.clsid := by
  have hshadows : Shadows (table s.com).entries specs :=
    fun e he spec hspec hclsid => absurd hclsid (hnew spec hspec e he)
  exact (registerLoop_own_iff hcom hregisters hsources hspecs hdll S_OK s hshadows).trans
    (and_iff_right hnew)

/-- A COM that is its table of registrations, with a DLL for every class. -/
def tableCom : Com ClassTable where
  coGetClassObject table clsid _ :=
    ((S_OK, match table.explicit clsid, table.automatic clsid with
      | e :: _, _ => some e.object
      | [], e :: _ => some e.object
      | [], [] => some (.foreign clsid.toNat)), table)
  coRegisterClassObject table clsid object clsctx regcls :=
    let cookie : DWORD := BitVec.ofNat 32 (table.entries.length + 1)
    ((S_OK, cookie), table.register clsid object clsctx regcls (S_OK, cookie))
  coRevokeClassObject table cookie := (S_OK, table.revoke cookie S_OK)
  getLastError _ := 0
  getLastErrorMessage _ := []

theorem tableCom_inProcess : InProcess tableCom id (fun clsid => some clsid.toNat) where
  finds table clsid := by
    show ClassTable.Finds _ table clsid (match table.explicit clsid, table.automatic clsid with
      | e :: _, _ => some e.object
      | [], e :: _ => some e.object
      | [], [] => some (.foreign clsid.toNat))
    cases hexplicit : table.explicit clsid with
    | cons e es => exact .explicit (by simp [hexplicit])
    | nil =>
        cases hautomatic : table.automatic clsid with
        | cons e es => exact .automatic hexplicit (by simp [hautomatic])
        | nil => exact .dll hexplicit hautomatic
  get _ _ _ := rfl
  register _ _ _ _ _ := rfl

theorem tableCom_registersEvery : RegistersEvery tableCom := fun _ _ _ _ _ => by
  show failed S_OK = false
  decide

/-- A class registered under itself, and the next one under an alias of its own. -/
def unchained : List ClassSpec := [{ clsid := 1 }, { clsid := 2, aliasClsid := 3 }]

theorem unchained_multipleUse : ∀ spec ∈ unchained,
    (spec.sanitize (mergedRegcls true REGCLS_MULTIPLEUSE)).MultipleUse := by
  intro spec hspec
  rcases List.mem_pair.mp hspec with rfl | rfl
  · exact ⟨by decide, by decide, by decide⟩
  · exact ⟨by decide, by decide, by decide⟩

theorem own_iff_unchained :
    (∀ spec ∈ unchained, inProcess tableCom (registerAllClassFactories tableCom unchained true
        REGCLS_MULTIPLEUSE { com := {} }).2 spec.clsid = some (.foreign spec.clsid.toNat)) ↔
      unchained.Pairwise fun x y =>
        (x.sanitize (mergedRegcls true REGCLS_MULTIPLEUSE)).aliasClsid ≠ y.clsid :=
  own_iff tableCom id (fun clsid => some clsid.toNat) tableCom_inProcess tableCom_registersEvery
    unchained true REGCLS_MULTIPLEUSE { com := {} } (by decide) unchained_multipleUse
    (fun _ _ => rfl) (fun _ _ _ he => absurd he List.not_mem_nil)

/-- The alias of the first specification is the source of the second. -/
def chained : List ClassSpec := [{ clsid := 1, aliasClsid := 2 }, { clsid := 2, aliasClsid := 3 }]

theorem chained_multipleUse : ∀ spec ∈ chained,
    (spec.sanitize (mergedRegcls true REGCLS_MULTIPLEUSE)).MultipleUse := by
  intro spec hspec
  rcases List.mem_pair.mp hspec with rfl | rfl
  · exact ⟨by decide, by decide, by decide⟩
  · exact ⟨by decide, by decide, by decide⟩

/-- The second source is left with the factory of the first. -/
theorem not_own_chained :
    InProcess tableCom id (fun clsid => some clsid.toNat) ∧ RegistersEvery tableCom ∧
      (chained.map ClassSpec.clsid).Nodup ∧ (chained.map ClassSpec.aliasClsid).Nodup ∧
      (∀ spec ∈ chained, (spec.sanitize (mergedRegcls true REGCLS_MULTIPLEUSE)).MultipleUse) ∧
      inProcess tableCom (registerAllClassFactories tableCom chained true REGCLS_MULTIPLEUSE
        { com := {} }).2 2 = some (.hostContainerFactory 1 CLSCTX_INPROC_SERVER) :=
  ⟨tableCom_inProcess, tableCom_registersEvery, by decide, by decide, chained_multipleUse,
    by decide⟩

end HostSurrogate

end Axhost
