import Axhost.Platform.Windows

/-!
# Class specifications

`class_spec.cc`: one `--clsid` item, its parsing and its defaults.  A message box is
the template the source fills in and its arguments.  `alias` is a word of Lean, so the
field of that name is `aliasClsid`.
-/

namespace Axhost

structure MessageBox where
  template : String
  arguments : List QString
deriving DecidableEq, Repr

structure ClassSpec where
  clsid : QUuid := 0
  aliasClsid : QUuid := 0
  clsidInput : QString := []
  aliasInput : QString := []
  clsctxCreate : DWORD := 0
  clsctxRegister : DWORD := 0
  regcls : DWORD := 0
  regclsExplicit : Bool := false
  result : HRESULT := 0
  error : DWORD := 0
deriving DecidableEq, Repr

namespace ClassSpec

def slash : QChar := qLatin1Char '/'

def clsidParsingFailed (input : QString) : MessageBox where
  template := "Error: CLSID Parsing Failed\n\nInvalid CLSID: '%1'"
  arguments := [input]

/-- `parts[index]` when it exists and is not empty. -/
def part (parts : List QString) (index : Nat) : Option QString :=
  (parts[index]?).filter fun s => !s.isEmpty

/-- `CLSIDFromQString` with the warning that follows a failure, which leaves the null identifier. -/
def clsidFromQString (ole : Ole32) (input : QString) : QUuid × List MessageBox :=
  match ole.clsidFromString input.cStr with
  | .ok u => (u, [])
  | .error _ => (0, [clsidParsingFailed input])

/-- The specification and the warnings shown on the way. -/
def fromString (ole : Ole32) (item : QString) : ClassSpec × List MessageBox :=
  let parts := QString.split slash item
  let spec : ClassSpec := {}
  let (spec, clsidWarnings) := match part parts 0 with
    | some text =>
      let input := QString.trimmed text
      let (u, warnings) := clsidFromQString ole input
      ({ spec with clsidInput := input, clsid := u }, warnings)
    | none => (spec, [])
  let (spec, aliasWarnings) := match part parts 1 with
    | some text =>
      let input := QString.trimmed text
      let (u, warnings) := clsidFromQString ole input
      ({ spec with aliasInput := input, aliasClsid := u }, warnings)
    | none => (spec, [])
  let spec := match (part parts 2).bind QString.toUInt with
    | some value => { spec with clsctxCreate := value }
    | none => spec
  let spec := match (part parts 3).bind QString.toUInt with
    | some value => { spec with clsctxRegister := value }
    | none => spec
  let spec := match (part parts 4).bind QString.toUInt with
    | some value => { spec with regcls := value, regclsExplicit := true }
    | none => spec
  (spec, clsidWarnings ++ aliasWarnings)

/-- The specifications that the texts of items are parsed to. -/
def parsed (ole : Ole32) (items : List QString) : List ClassSpec :=
  items.map fun item => (fromString ole item).1

def sanitize (spec : ClassSpec) (regcls : DWORD) : ClassSpec :=
  let spec := if spec.aliasInput.isEmpty then
      { spec with aliasInput := spec.clsidInput } else spec
  let spec := if QUuid.isNull spec.aliasClsid then { spec with aliasClsid := spec.clsid } else spec
  let spec := if spec.clsctxCreate = 0 then
      { spec with clsctxCreate := CLSCTX_INPROC_SERVER } else spec
  let spec := if spec.clsctxRegister = 0 then
      { spec with clsctxRegister := CLSCTX_LOCAL_SERVER } else spec
  if spec.regclsExplicit then spec
  else
    let regcls := if regcls = 0 then REGCLS_SINGLEUSE ||| REGCLS_MULTI_SEPARATE else regcls
    { spec with regcls := regcls }

/-! ## What parsing sets -/

/-- The class identifier that a field is read as; none also where it cannot be read. -/
def clsidPart (ole : Ole32) (item : QString) (index : Nat) : Option QUuid :=
  ((part (QString.split slash item) index).map QString.trimmed).bind ole.clsid?

def numberPart (item : QString) (index : Nat) : Option DWORD :=
  (part (QString.split slash item) index).bind QString.toUInt

theorem clsidFromQString_fst (ole : Ole32) (input : QString) :
    (clsidFromQString ole input).1 = (ole.clsid? input).getD 0 := by
  unfold clsidFromQString Ole32.clsid?
  cases ole.clsidFromString input.cStr with
  | error hr => rfl
  | ok u => rfl

/-- A field that is not read is left at its zero. -/
theorem fromString_eq (ole : Ole32) (item : QString) :
    (fromString ole item).1 =
      { clsid := (clsidPart ole item 0).getD 0
        aliasClsid := (clsidPart ole item 1).getD 0
        clsidInput := ((part (QString.split slash item) 0).map QString.trimmed).getD []
        aliasInput := ((part (QString.split slash item) 1).map QString.trimmed).getD []
        clsctxCreate := (numberPart item 2).getD 0
        clsctxRegister := (numberPart item 3).getD 0
        regcls := (numberPart item 4).getD 0
        regclsExplicit := (numberPart item 4).isSome } := by
  unfold fromString clsidPart numberPart
  dsimp only
  generalize (part (QString.split slash item) 2).bind QString.toUInt = create
  generalize (part (QString.split slash item) 3).bind QString.toUInt = register
  generalize (part (QString.split slash item) 4).bind QString.toUInt = regcls
  generalize part (QString.split slash item) 0 = clsid
  generalize part (QString.split slash item) 1 = aliasClsid
  cases clsid <;> cases aliasClsid <;> cases create <;> cases register <;> cases regcls <;>
    simp [clsidFromQString_fst]

/-! ## What sanitizing sets -/

@[simp] theorem sanitize_clsid (spec : ClassSpec) (regcls : DWORD) :
    (spec.sanitize regcls).clsid = spec.clsid := by
  unfold sanitize
  grind

@[simp] theorem sanitize_aliasClsid (spec : ClassSpec) (regcls : DWORD) :
    (spec.sanitize regcls).aliasClsid =
      if QUuid.isNull spec.aliasClsid then spec.clsid else spec.aliasClsid := by
  unfold sanitize
  grind

@[simp] theorem sanitize_clsidInput (spec : ClassSpec) (regcls : DWORD) :
    (spec.sanitize regcls).clsidInput = spec.clsidInput := by
  unfold sanitize
  grind

@[simp] theorem sanitize_aliasInput (spec : ClassSpec) (regcls : DWORD) :
    (spec.sanitize regcls).aliasInput =
      if spec.aliasInput.isEmpty then spec.clsidInput else spec.aliasInput := by
  unfold sanitize
  grind

@[simp] theorem sanitize_regclsExplicit (spec : ClassSpec) (regcls : DWORD) :
    (spec.sanitize regcls).regclsExplicit = spec.regclsExplicit := by
  unfold sanitize
  grind

@[simp] theorem sanitize_clsctxCreate (spec : ClassSpec) (regcls : DWORD) :
    (spec.sanitize regcls).clsctxCreate =
      if spec.clsctxCreate = 0 then CLSCTX_INPROC_SERVER else spec.clsctxCreate := by
  unfold sanitize
  grind

@[simp] theorem sanitize_clsctxRegister (spec : ClassSpec) (regcls : DWORD) :
    (spec.sanitize regcls).clsctxRegister =
      if spec.clsctxRegister = 0 then CLSCTX_LOCAL_SERVER else spec.clsctxRegister := by
  unfold sanitize
  grind

theorem sanitize_regcls_explicit {spec : ClassSpec} (h : spec.regclsExplicit = true)
    (regcls : DWORD) : (spec.sanitize regcls).regcls = spec.regcls := by
  unfold sanitize
  grind

theorem sanitize_regcls_default {spec : ClassSpec} (h : spec.regclsExplicit = false)
    {regcls : DWORD} (hne : regcls ≠ 0) : (spec.sanitize regcls).regcls = regcls := by
  unfold sanitize
  grind

end ClassSpec

end Axhost
