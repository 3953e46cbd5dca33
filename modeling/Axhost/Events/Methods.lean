import Axhost.Events.Objects

/-!
# The methods of the event proxies

`connection_point_container.cc`, `connection_point.cc`, `enum_connection_points.cc` and
`enum_connections.cc`, with every `AddRef` and `Release` of their smart pointers.  `scope`
is a `CComPtr` at the end of its block; a pointer that is detached is not released.
-/

namespace Axhost

open RefHeap

/-- The rest of a block, and then the destructor of its `CComPtr` to `a`. -/
def scope (a : Nat) (r : Outcome × ComHeap) : Outcome × ComHeap := (r.1, r.2.release a)

/-- `new`, and two local pointers to what is made: `proxyConcrete` and `proxy`.  `new` throws
rather than giving null and an object answers for its own interface, so the tests on the two
pointers in the source succeed. -/
def newProxy (env : Underlying) (o : ComObject) (h : ComHeap) : ComHeap :=
  ((h.new (env.allocate h) o).addRef h.next).addRef h.next

namespace HostConnectionPointContainer

/-- `m_proxyConnectionPoints` of the proxy at `this`. -/
def proxies (this : Nat) (h : ComHeap) : List (Nat × Nat) :=
  match h.obj? this with
  | some (.connectionPointContainer c) => c.proxyConnectionPoints
  | _ => []

/-- `m_proxyConnectionPoints.emplace(key, p)`, which copies the pointer. -/
def emplaceProxy (this key p : Nat) (h : ComHeap) : ComHeap :=
  match h.obj? this with
  | some (.connectionPointContainer c) =>
    if (UnorderedMap.find c.proxyConnectionPoints key).isSome then h
    else (h.addRef p).setObj this (.connectionPointContainer
      { c with proxyConnectionPoints := UnorderedMap.emplace c.proxyConnectionPoints key p })
  | _ => h

variable (env : Underlying)

def getProxyConnectionPoint (this : Nat) (pCP : Option Nat) (ppCP : Bool) (h : ComHeap) :
    Outcome × ComHeap :=
  if ppCP = false then ({ hr := E_POINTER }, h)
  else match pCP with
    | none => ({ hr := E_INVALIDARG }, h)
    | some pCP =>
      let key := (h.address pCP).getD 0
      match UnorderedMap.find (proxies this h) key with
      | some p =>
        -- `proxyInner` and `proxy`, of which the first is released
        ({ hr := S_OK, ptrs := [p] }, ((h.addRef p).addRef p).release p)
      | none =>
        let ((_, underlying), h) := (env.queryConnectionPoint pCP).run h
        match underlying with
        | none => ({ hr := E_UNEXPECTED }, h)
        | some underlying =>
          scope underlying <|
            let p := h.next
            let h := newProxy env
              (.connectionPoint { underlying := underlying, container := this }) h
            let h := emplaceProxy this key p h
            ({ hr := S_OK, ptrs := [p] }, ((h.addRef p).release p).release p)

def enumConnectionPoints (this : Nat) (c : HostConnectionPointContainer) (ppEnum : Bool)
    (h : ComHeap) : Outcome × ComHeap :=
  if ppEnum = false then ({ hr := E_POINTER }, h)
  else match c.underlying with
    | none => ({ hr := E_UNEXPECTED }, h)
    | some u =>
      let ((hr, underlying), h) := (env.enumConnectionPoints u).run h
      if failed hr then ({ hr := hr }, h)
      else match underlying with
        | none => ({ hr := E_UNEXPECTED }, h)
        | some underlying =>
          scope underlying <|
            let e := h.next
            let h := newProxy env
              (.enumConnectionPoints { underlying := some underlying, container := this }) h
            ({ hr := S_OK, ptrs := [e] }, h.release e)

def findConnectionPoint (this : Nat) (c : HostConnectionPointContainer) (riid : IID)
    (ppCP : Bool) (h : ComHeap) : Outcome × ComHeap :=
  if ppCP = false then ({ hr := E_POINTER }, h)
  else match c.underlying with
    | none => ({ hr := E_UNEXPECTED }, h)
    | some u =>
      let ((hr, underlying), h) := (env.findConnectionPoint u riid).run h
      if failed hr then ({ hr := hr }, h)
      else match underlying with
        | none => ({ hr := E_UNEXPECTED }, h)
        | some underlying =>
          scope underlying <|
            let ((qry, underlyingUnk), h) := (env.queryUnknown underlying).run h
            if failed qry then ({ hr := qry }, h)
            else match underlyingUnk with
              | none => ({ hr := E_UNEXPECTED }, h)
              | some underlyingUnk =>
                scope underlyingUnk <|
                  let (r, h) := getProxyConnectionPoint env this (some underlyingUnk) true h
                  if failed r.hr then ({ hr := r.hr }, h)
                  else match r.ptrs.head? with
                    | none => ({ hr := E_UNEXPECTED }, h)
                    | some proxy => ({ hr := r.hr, ptrs := [proxy] }, h)

end HostConnectionPointContainer

namespace HostConnectionPoint

/-- The proxy at `this`. -/
def fields (this : Nat) (h : ComHeap) : Option HostConnectionPoint :=
  match h.obj? this with
  | some (.connectionPoint p) => some p
  | _ => none

variable (env : Underlying)

def getUnderlyingSink (this : Nat) (dwCookie : DWORD) (ppUnk : Bool) (h : ComHeap) :
    Outcome × ComHeap :=
  if ppUnk = false then ({ hr := E_POINTER }, h)
  else match (fields this h).bind fun p => UnorderedMap.find p.underlyingConnections dwCookie with
    | none => ({ hr := E_UNEXPECTED }, h)
    | some underlying => ({ hr := S_OK, ptrs := [underlying] }, h.addRef underlying)

def getConnectionPointContainer (p : HostConnectionPoint) (ppCPC : Bool) (h : ComHeap) :
    Outcome × ComHeap :=
  if ppCPC = false then ({ hr := E_POINTER }, h)
  else ({ hr := S_OK, ptrs := [p.container] }, h.addRef p.container)

def enumConnections (this : Nat) (p : HostConnectionPoint) (ppEnum : Bool) (h : ComHeap) :
    Outcome × ComHeap :=
  if ppEnum = false then ({ hr := E_POINTER }, h)
  else
    let ((hr, underlying), h) := (env.enumConnections p.underlying).run h
    if failed hr then ({ hr := hr }, h)
    else match underlying with
      | none => ({ hr := E_UNEXPECTED }, h)
      | some underlying =>
        scope underlying <|
          let e := h.next
          let h := newProxy env
            (.enumConnections { underlying := some underlying, connectionPoint := this }) h
          ({ hr := hr, ptrs := [e] }, h.release e)

end HostConnectionPoint

namespace HostEnumConnectionPoints

variable (env : Underlying)

/-- The body of the loop of `Next`: the pointer that stands in the array after it, or the
code that is returned early. -/
def replaceOne (container cp : Nat) (h : ComHeap) : Except HRESULT Nat × ComHeap :=
  let h := h.addRef cp
  let ((qry, underlying), h) := (env.queryUnknown cp).run h
  if failed qry then (.error qry, h.release cp)
  else match underlying with
    | none => (.error E_UNEXPECTED, h.release cp)
    | some underlying =>
      let (r, h) := HostConnectionPointContainer.getProxyConnectionPoint env container
        (some underlying) true h
      let (proxy, h) := match r.ptrs.head? with
        | none => (cp, h)
        | some proxy => if failed r.hr then (cp, h) else (proxy, h.release cp)
      (.ok proxy, (h.release underlying).release cp)

/-- The loop, with the code it returns early. -/
def replaceFetched (container : Nat) :
    List Nat → ComHeap → (Option HRESULT × List Nat) × ComHeap
  | [], h => ((none, []), h)
  | cp :: rest, h =>
    match replaceOne env container cp h with
    | (.error qry, h) => ((some qry, cp :: rest), h)
    | (.ok proxy, h) =>
      let ((qry, rest), h) := replaceFetched container rest h
      ((qry, proxy :: rest), h)

def next (e : HostEnumConnectionPoints) (cConnections : DWORD) (ppCP pcFetched : Bool)
    (h : ComHeap) : Outcome × ComHeap :=
  if ppCP = false then ({ hr := E_POINTER }, h)
  else if 1 < cConnections ∧ pcFetched = false then ({ hr := E_POINTER }, h)
  else match e.underlying with
    | none => ({ hr := E_UNEXPECTED }, h)
    | some u =>
      let ((hr, cps), h) := (env.nextConnectionPoints u cConnections).run h
      let fetched := if pcFetched then some cps.length else none
      let ((qry, cps), h) := replaceFetched env e.container cps h
      ({ hr := qry.getD hr, ptrs := cps, fetched := fetched }, h)

def skip (e : HostEnumConnectionPoints) (cConnections : DWORD) (h : ComHeap) : Outcome × ComHeap :=
  match e.underlying with
  | none => ({ hr := E_UNEXPECTED }, h)
  | some u =>
    let ((hr, _), h) := (env.skipConnectionPoints u cConnections).run h
    ({ hr := hr }, h)

def reset (e : HostEnumConnectionPoints) (h : ComHeap) : Outcome × ComHeap :=
  match e.underlying with
  | none => ({ hr := E_UNEXPECTED }, h)
  | some u =>
    let ((hr, _), h) := (env.resetConnectionPoints u).run h
    ({ hr := hr }, h)

def clone (e : HostEnumConnectionPoints) (ppEnum : Bool) (h : ComHeap) : Outcome × ComHeap :=
  if ppEnum = false then ({ hr := E_POINTER }, h)
  else match e.underlying with
    | none => ({ hr := E_UNEXPECTED }, h)
    | some u =>
      let ((hr, underlyingClone), h) := (env.cloneConnectionPoints u).run h
      if failed hr then ({ hr := hr }, h)
      else match underlyingClone with
        | none => ({ hr := E_UNEXPECTED }, h)
        | some underlyingClone =>
          scope underlyingClone <|
            let clone := h.next
            let h := newProxy env (.enumConnectionPoints
              { underlying := some underlyingClone, container := e.container }) h
            ({ hr := hr, ptrs := [clone] }, h.release clone)

end HostEnumConnectionPoints

namespace HostEnumConnections

variable (env : Underlying)

/-- The loop of `Next`. -/
def replaceFetched (connectionPoint : Nat) :
    List (DWORD × Nat) → ComHeap → List (DWORD × Nat) × ComHeap
  | [], h => ([], h)
  | (dwCookie, pUnk) :: rest, h =>
    let (r, h) := HostConnectionPoint.getUnderlyingSink connectionPoint dwCookie true h
    let (pUnk, h) := match r.ptrs.head? with
      | none => (pUnk, h)
      | some underlying => if failed r.hr then (pUnk, h) else (underlying, h.release pUnk)
    let (rest, h) := replaceFetched connectionPoint rest h
    ((dwCookie, pUnk) :: rest, h)

/-- `Next`, with the cookies of the array it fills. -/
def next (e : HostEnumConnections) (cConnections : DWORD) (rgcd pcFetched : Bool) (h : ComHeap) :
    (Outcome × List DWORD) × ComHeap :=
  if rgcd = false then (({ hr := E_POINTER }, []), h)
  else if 1 < cConnections ∧ pcFetched = false then (({ hr := E_POINTER }, []), h)
  else match e.underlying with
    | none => (({ hr := E_UNEXPECTED }, []), h)
    | some u =>
      let ((hr, connections), h) := (env.nextConnections u cConnections).run h
      let fetched := if pcFetched then some connections.length else none
      let (connections, h) := replaceFetched e.connectionPoint connections h
      (({ hr := hr, ptrs := connections.map Prod.snd, fetched := fetched },
        connections.map Prod.fst), h)

/-- Both local pointers to the clone are released; the one written out is not detached. -/
def clone (e : HostEnumConnections) (ppEnum : Bool) (h : ComHeap) : Outcome × ComHeap :=
  if ppEnum = false then ({ hr := E_POINTER }, h)
  else match e.underlying with
    | none => ({ hr := E_UNEXPECTED }, h)
    | some u =>
      let ((hr, underlyingClone), h) := (env.cloneConnections u).run h
      if failed hr then ({ hr := hr }, h)
      else
        let clone := h.next
        let h := newProxy env (.enumConnections
          { underlying := underlyingClone, connectionPoint := e.connectionPoint }) h
        let h := (h.release clone).release clone
        match underlyingClone with
        | none => ({ hr := hr, ptrs := [clone] }, h)
        | some underlyingClone => scope underlyingClone ({ hr := hr, ptrs := [clone] }, h)

end HostEnumConnections

end Axhost
