import Axhost.Registration.Startup

/-!
# The exit policy

A standalone host for multiple use waits where one for single use leaves.  `CheckMultipleUse`
reads the flags of the items before the defaults are merged in, and before COM has been asked.

* `HostSurrogate.multipleUse_iff`: when COM holds a registration for multiple use;
* `HostSurrogate.policyMatches_iff`: when the exit policy is that of the registrations.
-/

namespace Axhost

namespace HostSurrogate

open ClassSpec

variable {γ : Type*}

/-! ## Entries for multiple use -/

/-- An entry of the table is for multiple use. -/
def ForMultipleUse (entries : List ClassEntry) : Prop :=
  ∃ e ∈ entries, hasFlag e.regcls REGCLS_MULTIPLEUSE = true

instance (entries : List ClassEntry) : Decidable (ForMultipleUse entries) :=
  inferInstanceAs (Decidable (∃ e ∈ entries, _))

theorem forMultipleUse_append (entries entries' : List ClassEntry) :
    ForMultipleUse (entries ++ entries') ↔ ForMultipleUse entries ∨ ForMultipleUse entries' := by
  simp [ForMultipleUse, or_and_right, exists_or]

/-- An original is looked up for multiple use alone. -/
theorem multipleUse_of_findOriginal {com : Com γ} {args : LoadDllServerExArgs} {s : HostSurrogate γ}
    (h : (findOriginal com args s).1 ≠ none) : hasFlag args.regcls REGCLS_MULTIPLEUSE = true := by
  unfold findOriginal at h
  dsimp only at h
  split at h
  · next hboth =>
    simp only [Bool.and_eq_true] at hboth
    exact hboth.1.2
  · exact absurd rfl h

/-- A load adds its class object to the table when COM accepts it, and an original beside one for
multiple use. -/
theorem loadDllServerEx_multipleUse (com : Com γ) (args : LoadDllServerExArgs)
    (s : HostSurrogate (γ × ClassTable)) : ∃ entries,
    ClassTable.Adds s.com.2 (loadDllServerEx com.recorded args s).2.com.2 entries ∧
      (ForMultipleUse entries ↔ failed (loadDllServerEx com.recorded args s).1 = false ∧
        hasFlag args.regcls REGCLS_MULTIPLEUSE = true) := by
  obtain ⟨found, s₁, reg, state, hfound, hs₁, hreg, hload⟩ :=
    loadDllServerEx_cases com.recorded args s
  have htable : s₁.com.2 = s.com.2 := by
    rw [hs₁, hfound]
    exact findOriginal_table com args { s with loads := s.loads ++ [args] }
  have hstate := state_eq hreg
  rw [htable] at hstate
  rw [hload]
  split_ifs with hfailed
  · refine ⟨[], ?_, iff_of_false (by simp [ForMultipleUse]) (by simp [hfailed])⟩
    dsimp only
    rw [hstate, ClassTable.register_of_failed hfailed]
    exact .refl _
  · have hok := Bool.eq_false_iff.mpr hfailed
    have hadds := ClassTable.register_adds s.com.2 args.aliasClsid
      (.hostContainerFactory args.clsid args.clsctxCreate) args.clsctxRegister args.regcls hok
    rw [← hstate] at hadds
    obtain ⟨more, hmore, -⟩ := registerOriginal_adds com args found.1
      ({ s₁ with com := state }.insertCookie reg.2)
    refine ⟨_, hadds.trans hmore, ?_⟩
    rw [and_iff_right hok]
    refine ⟨fun hmultiple => ?_, fun hflag => ⟨_, List.mem_cons_self, hflag⟩⟩
    cases horiginal : found.1 with
    | some original =>
        have hlooked :
            (findOriginal com.recorded args { s with loads := s.loads ++ [args] }).1 ≠ none := by
          rw [← hfound, horiginal]
          simp
        exact multipleUse_of_findOriginal hlooked
    | none =>
        rw [horiginal] at hmore
        have hnone : more = [] := List.self_eq_append_right.mp hmore.entries_eq
        obtain ⟨e, he, hflag⟩ := hmultiple
        rw [hnone, List.append_nil, List.mem_singleton] at he
        rwa [he] at hflag

theorem registerLoop_multipleUse (com : Com γ) (regcls : DWORD) (specs : List ClassSpec)
    (hrOverall : HRESULT) (s : HostSurrogate (γ × ClassTable)) : ∃ entries,
    (registerLoop com.recorded regcls specs hrOverall s).2.com.2.entries =
        s.com.2.entries ++ entries ∧
      (ForMultipleUse entries ↔
        ∃ spec ∈ (registerLoop com.recorded regcls specs hrOverall s).1.2,
          failed spec.result = false ∧ hasFlag spec.regcls REGCLS_MULTIPLEUSE = true) := by
  induction specs generalizing hrOverall s with
  | nil => exact ⟨[], (List.append_nil _).symm, by simp [ForMultipleUse, registerLoop]⟩
  | cons spec specs ih =>
      obtain ⟨load, error, t, rfl, hcom, -, hloop⟩ :=
        registerLoop_cons_cases com.recorded regcls spec specs hrOverall s
      obtain ⟨added, hadded, hmultiple⟩ :=
        loadDllServerEx_multipleUse com (loadArgs (spec.sanitize regcls)) s
      obtain ⟨entries, hentries, hrest⟩ := ih _ t
      rw [hloop]
      refine ⟨added ++ entries, ?_, ?_⟩
      · dsimp only
        rw [hentries, hcom, hadded.entries_eq, List.append_assoc]
      · rw [forMultipleUse_append, hmultiple, hrest, List.exists_mem_cons_iff]
        rfl

/-! ## The flags of an item -/

theorem regcls_of_mem_parsed {ole : Ole32} {items : List QString} {spec : ClassSpec}
    (h : spec ∈ parsed ole items) (hdefault : spec.regclsExplicit = false) : spec.regcls = 0 := by
  obtain ⟨item, -, rfl⟩ := List.mem_map.mp h
  rw [fromString_eq] at hdefault ⊢
  dsimp only at hdefault ⊢
  rw [Option.isSome_eq_false_iff, Option.isNone_iff_eq_none] at hdefault
  rw [hdefault]
  rfl

theorem mergedRegcls_multipleUse (suspend : Bool) (regcls : DWORD) :
    hasFlag (mergedRegcls suspend regcls) REGCLS_MULTIPLEUSE =
      hasFlag regcls REGCLS_MULTIPLEUSE := by
  have hsuspended : REGCLS_SUSPENDED &&& REGCLS_MULTIPLEUSE = 0 := by decide
  have hseparate : REGCLS_MULTI_SEPARATE &&& REGCLS_MULTIPLEUSE = 0 := by decide
  unfold mergedRegcls hasFlag
  cases suspend with
  | false => simp [BitVec.and_or_distrib_right, hseparate]
  | true => simp [BitVec.and_or_distrib_right, hseparate, hsuspended]

/-- A specification asks for multiple use, by flags of its own or else by the global ones. -/
def AsksMultipleUse (regcls : DWORD) (spec : ClassSpec) : Prop :=
  hasFlag (if spec.regclsExplicit then spec.regcls else regcls) REGCLS_MULTIPLEUSE = true

instance (regcls : DWORD) (spec : ClassSpec) : Decidable (AsksMultipleUse regcls spec) :=
  inferInstanceAs (Decidable (_ = true))

theorem sanitize_multipleUse (spec : ClassSpec) (suspend : Bool) (regcls : DWORD) :
    hasFlag (spec.sanitize (mergedRegcls suspend regcls)).regcls REGCLS_MULTIPLEUSE = true ↔
      AsksMultipleUse regcls spec := by
  unfold AsksMultipleUse
  split_ifs with hexplicit
  · rw [sanitize_regcls_explicit hexplicit]
  · rw [sanitize_regcls_default (Bool.eq_false_iff.mpr hexplicit) (mergedRegcls_ne_zero _ _),
      mergedRegcls_multipleUse]

/-! ## The policy -/

/-- `m_hasMultipleUse` is set when COM holds a registration for multiple use that has been made
for the items. -/
def PolicyMatches (ole : Ole32) (com : Com γ) (items : List QString) (suspend : Bool)
    (regcls : DWORD) (s : HostSurrogate (γ × ClassTable)) : Prop :=
  Runtime.checkMultipleUse (parsed ole items) regcls = true ↔
    ForMultipleUse ((s.registerAllClassFactories com.recorded (parsed ole items) suspend
      regcls).2.com.2.entries.drop s.com.2.entries.length)

/-- `CheckMultipleUse` sees the flag: among the global ones, or in the `r` of an item. -/
def SeesMultipleUse (specs : List ClassSpec) (regcls : DWORD) : Prop :=
  hasFlag regcls REGCLS_MULTIPLEUSE = true ∨
    ∃ spec ∈ specs, spec.regclsExplicit = true ∧ hasFlag spec.regcls REGCLS_MULTIPLEUSE = true

theorem checkMultipleUse_iff (ole : Ole32) (items : List QString) (regcls : DWORD) :
    Runtime.checkMultipleUse (parsed ole items) regcls = true ↔
      SeesMultipleUse (parsed ole items) regcls := by
  unfold Runtime.checkMultipleUse SeesMultipleUse
  rw [Bool.or_eq_true, List.any_eq_true]
  refine or_congr_right (exists_congr fun spec => and_congr_right fun hspec => ?_)
  cases hexplicit : spec.regclsExplicit with
  | true => simp
  | false =>
      -- an item that leaves the field out has no flags of its own to be read
      rw [regcls_of_mem_parsed hspec hexplicit]
      decide

/-- The specifications of the items beside what the loop has left of them. -/
def outcomes (ole : Ole32) (com : Com γ) (items : List QString) (suspend : Bool) (regcls : DWORD)
    (s : HostSurrogate γ) : List (ClassSpec × ClassSpec) :=
  (parsed ole items).zip (s.registerAllClassFactories com (parsed ole items) suspend regcls).1.2

theorem outcomes_records (ole : Ole32) (com : Com γ) (items : List QString) (suspend : Bool)
    (regcls : DWORD) (s : HostSurrogate γ) {p : ClassSpec × ClassSpec}
    (hp : p ∈ outcomes ole com items suspend regcls s) :
    p.1 ∈ parsed ole items ∧ Records (mergedRegcls suspend regcls) p.1 p.2 :=
  ⟨(List.of_mem_zip hp).1, (List.forall₂_iff_zip.mp (registerLoop_records com
    (mergedRegcls suspend regcls) (parsed ole items) S_OK s)).2 hp⟩

theorem outcomes_length (ole : Ole32) (com : Com γ) (items : List QString) (suspend : Bool)
    (regcls : DWORD) (s : HostSurrogate γ) :
    (parsed ole items).length =
      (s.registerAllClassFactories com (parsed ole items) suspend regcls).1.2.length :=
  (registerLoop_records com (mergedRegcls suspend regcls) (parsed ole items) S_OK s).length_eq

/-- COM holds a registration for multiple use when it has accepted a specification that asks for
one. -/
theorem multipleUse_iff (ole : Ole32) (com : Com γ) (items : List QString) (suspend : Bool)
    (regcls : DWORD) (s : HostSurrogate (γ × ClassTable)) :
    ForMultipleUse ((s.registerAllClassFactories com.recorded (parsed ole items) suspend
        regcls).2.com.2.entries.drop s.com.2.entries.length) ↔
      ∃ p ∈ outcomes ole com.recorded items suspend regcls s,
        failed p.2.result = false ∧ AsksMultipleUse regcls p.1 := by
  obtain ⟨entries, hentries, hmultiple⟩ :=
    registerLoop_multipleUse com (mergedRegcls suspend regcls) (parsed ole items) S_OK s
  have hsnd : (outcomes ole com.recorded items suspend regcls s).map Prod.snd =
      (s.registerAllClassFactories com.recorded (parsed ole items) suspend regcls).1.2 :=
    List.map_snd_zip (outcomes_length ole com.recorded items suspend regcls s).ge
  rw [registerAllClassFactories, hentries, List.drop_left, hmultiple, ← registerAllClassFactories,
    ← hsnd]
  simp only [List.mem_map, exists_exists_and_eq_and]
  refine exists_congr fun p => and_congr_right fun hp => and_congr_right fun _ => ?_
  obtain ⟨result, error, hrecords⟩ := (outcomes_records _ _ _ _ _ _ hp).2
  rw [hrecords, sanitize_multipleUse]

theorem sees_of_asks {regcls : DWORD} {specs : List ClassSpec} {spec : ClassSpec}
    (hspec : spec ∈ specs) (hasks : AsksMultipleUse regcls spec) :
    SeesMultipleUse specs regcls := by
  unfold AsksMultipleUse at hasks
  split_ifs at hasks with hexplicit
  · exact Or.inr ⟨spec, hspec, hexplicit, hasks⟩
  · exact Or.inl hasks

theorem policyMatches_iff_asks (ole : Ole32) (com : Com γ) (items : List QString) (suspend : Bool)
    (regcls : DWORD) (s : HostSurrogate (γ × ClassTable)) :
    PolicyMatches ole com items suspend regcls s ↔
      ¬ SeesMultipleUse (parsed ole items) regcls ∨
        ∃ p ∈ outcomes ole com.recorded items suspend regcls s,
          failed p.2.result = false ∧ AsksMultipleUse regcls p.1 := by
  rw [PolicyMatches, checkMultipleUse_iff, multipleUse_iff, ← imp_iff_not_or]
  refine ⟨Iff.mp, fun h => ⟨h, ?_⟩⟩
  rintro ⟨p, hp, -, hasks⟩
  exact sees_of_asks (outcomes_records _ _ _ _ _ _ hp).1 hasks

theorem exists_asks_of_accepted {ole : Ole32} {com : Com γ} {items : List QString}
    {suspend : Bool} {regcls : DWORD} {s : HostSurrogate γ}
    (haccepted : ∀ p ∈ outcomes ole com items suspend regcls s, failed p.2.result = false) :
    (∃ p ∈ outcomes ole com items suspend regcls s,
      failed p.2.result = false ∧ AsksMultipleUse regcls p.1) ↔
      ∃ spec ∈ parsed ole items, AsksMultipleUse regcls spec := by
  have hfst : (outcomes ole com items suspend regcls s).map Prod.fst = parsed ole items :=
    List.map_fst_zip (outcomes_length ole com items suspend regcls s).le
  rw [← hfst]
  simp only [List.mem_map, exists_exists_and_eq_and]
  exact exists_congr fun p => and_congr_right fun hp => and_iff_right (haccepted p hp)

/-- The flag that is seen is that of no item only if it is the global one and no item takes it
over. -/
theorem asks_of_sees_iff (specs : List ClassSpec) (regcls : DWORD) :
    (SeesMultipleUse specs regcls → ∃ spec ∈ specs, AsksMultipleUse regcls spec) ↔
      ¬ (hasFlag regcls REGCLS_MULTIPLEUSE = true ∧
        ∀ spec ∈ specs, spec.regclsExplicit = true ∧
          hasFlag spec.regcls REGCLS_MULTIPLEUSE = false) := by
  unfold SeesMultipleUse AsksMultipleUse
  cases hglobal : hasFlag regcls REGCLS_MULTIPLEUSE with
  | false =>
      refine iff_of_true ?_ (by simp)
      rintro (hset | ⟨spec, hspec, hexplicit, hflag⟩)
      · exact absurd hset (by simp)
      · exact ⟨spec, hspec, by rw [if_pos hexplicit, hflag]⟩
  | true =>
      simp only [true_or, forall_true_left, true_and, not_forall, not_and_or, exists_prop]
      refine exists_congr fun spec => and_congr_right fun _ => ?_
      cases spec.regclsExplicit with
      | true => simp
      | false => simp [hglobal]

/-- The flag is right when it is not set, or COM accepts an item that asks for multiple use.  Where
COM accepts all of them, it is wrong under a global flag that no item takes over. -/
theorem policyMatches_iff (ole : Ole32) (com : Com γ) (items : List QString) (suspend : Bool)
    (regcls : DWORD) (s : HostSurrogate (γ × ClassTable)) :
    (PolicyMatches ole com items suspend regcls s ↔
      ¬ SeesMultipleUse (parsed ole items) regcls ∨
        ∃ p ∈ outcomes ole com.recorded items suspend regcls s,
          failed p.2.result = false ∧ AsksMultipleUse regcls p.1) ∧
    ((∀ p ∈ outcomes ole com.recorded items suspend regcls s, failed p.2.result = false) →
      (PolicyMatches ole com items suspend regcls s ↔
        ¬ (hasFlag regcls REGCLS_MULTIPLEUSE = true ∧
          ∀ spec ∈ parsed ole items, spec.regclsExplicit = true ∧
            hasFlag spec.regcls REGCLS_MULTIPLEUSE = false))) := by
  refine ⟨policyMatches_iff_asks ole com items suspend regcls s, fun haccepted => ?_⟩
  rw [policyMatches_iff_asks, exists_asks_of_accepted haccepted, ← imp_iff_not_or,
    asks_of_sees_iff]

/-- An item that is explicitly for single use, under `--multiple-use`. -/
theorem not_policyMatches_singleUse :
    ¬ PolicyMatches (.ofProgIDs fun _ => none) (RunAsStandalone.fixedCom S_OK S_OK).toCom
      [qString "\x7b0002DF01-0000-0000-C000-000000000046\x7d////2"] true REGCLS_MULTIPLEUSE
      { com := ((), {}) } := by
  unfold PolicyMatches
  decide +kernel

end HostSurrogate

end Axhost
