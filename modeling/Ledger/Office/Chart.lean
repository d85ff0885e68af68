import Ledger.Office

/-!
The chart of accounts: opening, changing, deactivating, finding and listing accounts.

Opening an account checks, in order: a tenant is given, the request keeps its field rules,
the parent (when given) exists in the tenant, and the code is free. The level is the
parent's plus one. Moving an account under a new parent is refused when the parent is the
account itself or one of its descendants; otherwise the account and its whole subtree take
new levels. Deactivating an inactive account changes nothing.
-/

namespace Ledger

namespace Office

/-- The tenant's account with a code. -/
def accountByCode (b : Books) (tenant : String) (code : Ref) : Except Fault Account :=
  match if code.exact then b.account? (accountKey tenant code.text) else none with
  | none => .error (.accountMissing code.text)
  | some a => if a.tenant != tenant then .error (.foreignAccount code.text) else .ok a

/-- The tenant's account with a code, as a parent. -/
def parentByCode (b : Books) (tenant code : String) : Except Fault Account :=
  match b.account? (accountKey tenant code) with
  | none => .error (.parentMissing code)
  | some a => if a.tenant != tenant then .error (.foreignParent code) else .ok a

/-- Type, side, parent code and level of a requested account, or why it is refused. -/
def admitAccount (b : Books) (c : Ctx) (req : AccountRequest) :
    Except Fault (AccountType × Side × String × Nat) := do
  if c.tenant.isEmpty then throw .tenantRequired
  if let some v := req.violation then throw (.fieldRule v.path v.rule.tag)
  let some type := AccountType.ofName? req.type | throw (.unknownType req.type)
  let side ← if req.side.isEmpty then pure type.normalSide
    else match Side.ofName? req.side with
      | some s => pure s
      | none => throw (.unknownSide req.side)
  match Amount.check "opening balance" req.opening with
  | .error p => throw (.amount p)
  | .ok () => pure ()
  match req.parent with
  | some p =>
    if p.isEmpty then pure (type, side, "", 0)
    else
      let parent ← parentByCode b c.tenant p
      pure (type, side, p, parent.level + 1)
  | none => pure (type, side, "", 0)

/-- Opens an account. The identifier is issued once the request is admitted, so a taken
code still uses one up. -/
def registerAccount (o : Office) (c : Ctx) (req : AccountRequest) : Outcome Account :=
  match admitAccount o.books c req with
  | .error f => (.error f, o)
  | .ok (type, side, parent, level) =>
    let (id, o) := o.freshId
    let a : Account :=
      { id, tenant := c.tenant, code := req.code, name := req.name,
        description := req.description, type, side, parent, level, active := true,
        cashFlow := req.cashFlow, opening := req.opening, balance := req.opening,
        audit := Audit.new c.user c.now }
    match o.books.addAccount a with
    | .error f => (.error f, o)
    | .ok books => (.ok a, { o with books })

/-- Walks up the parents of `cur` looking for `code`: meeting it means the new parent
`target` lies below `code`. A code met twice is a loop. `fuel` bounds the walk by the number
of accounts. -/
def climb (b : Books) (tenant code target : String) : Nat → List String → Account →
    Except Fault Unit
  | 0, _, cur => .error (.hierarchyLoop cur.parent)
  | fuel + 1, seen, cur =>
    if cur.parent.isEmpty then .ok ()
    else if cur.parent == code then .error (.descendantParent target code)
    else if seen.contains cur.parent then .error (.hierarchyLoop cur.parent)
    else match b.account? (accountKey tenant cur.parent) with
      | none => .error (.walkingHierarchy cur.parent (.accountMissing cur.parent))
      | some next => climb b tenant code target fuel (cur.parent :: seen) next

/-- The level of `code` under a new parent, or why the move is refused. -/
def reparentLevel (b : Books) (tenant code target : String) : Except Fault Nat := do
  if target.isEmpty then return 0
  if target == code then throw (.ownParent code)
  let parent ← parentByCode b tenant target
  climb b tenant code target (b.accounts.length + 1) [parent.code] parent
  pure (parent.level + 1)

/-- Levels of the descendants of `code` when `code` sits at `rootLevel`, breadth first,
children by code. `fuel` bounds the queue by the number of accounts. -/
def subtreeLevels (b : Books) (tenant code : String) : Nat → List (String × Nat) →
    List (String × Nat) → List (String × Nat)
  | 0, _, levels => levels
  | _, [], levels => levels
  | fuel + 1, (c, lvl) :: queue, levels =>
    let (queue, levels) := (b.accountsOf tenant (·.parent == c)).foldl
      (fun (q, ls) child =>
        if ls.any (·.1 == child.code) || child.code == code then (q, ls)
        else (q ++ [(child.code, lvl + 1)], ls ++ [(child.code, lvl + 1)]))
      (queue, levels)
    subtreeLevels b tenant code fuel queue levels

/-- Walks up from `cur`, refusing to meet `code`; the store's own check of a move. -/
def checkAncestry (b : Books) (tenant code target : String) : Nat → List String → String →
    Except Fault Unit
  | 0, _, cur => .error (.hierarchyLoop cur)
  | fuel + 1, seen, cur =>
    if cur.isEmpty then .ok ()
    else if cur == code then .error (.descendantParent target code)
    else if seen.contains cur then .error (.hierarchyLoop cur)
    else match b.account? (accountKey tenant cur) with
      | none => .error (.parentMissing cur)
      | some p => checkAncestry b tenant code target fuel (cur :: seen) p.parent

/-- The stored account with the changeable fields of `changed`. -/
def withChanges (current changed : Account) : Account :=
  { current with
    name := changed.name, description := changed.description, parent := changed.parent,
    level := changed.level, active := changed.active, cashFlow := changed.cashFlow,
    audit := { current.audit with
      updatedAt := changed.audit.updatedAt, updatedBy := changed.audit.updatedBy } }

/-- Stores a changed account. -/
def storeChanges (b : Books) (a : Account) : Except Fault Books :=
  if (b.account? a.key).isNone then .error (.accountMissing a.code)
  else .ok (b.modifyAccount a.key (withChanges · a))

/-- Stores a moved account and the new levels of its descendants. -/
def storeMove (b : Books) (a : Account) (levels : List (String × Nat)) : Except Fault Books := do
  for code in a.code :: levels.map (·.1) do
    if (b.account? (accountKey a.tenant code)).isNone then throw (.accountMissing code)
  checkAncestry b a.tenant a.code a.parent (b.accounts.length + 1) [] a.parent
  let b := b.modifyAccount a.key (withChanges · a)
  pure (levels.foldl (fun b (code, lvl) => b.modifyAccount (accountKey a.tenant code) fun x =>
    { x with
      level := lvl,
      audit := { x.audit with updatedAt := a.audit.updatedAt, updatedBy := a.audit.updatedBy } })
    b)

/-- Changes an account: name, description and flags as given, and a move when a parent
different from the current one is given. -/
def updateAccount (o : Office) (c : Ctx) (code : Ref) (p : AccountPatch) : Outcome Account :=
  let b := o.books
  let result : Except Fault (Account × Books) := do
    if let some v := p.violation then throw (.fieldRule v.path v.rule.tag)
    let a ← accountByCode b c.tenant code
    let a := { a with
      name := p.name.getD a.name, description := p.description.getD a.description,
      active := p.active.getD a.active, cashFlow := p.cashFlow.getD a.cashFlow }
    match p.parent with
    | some target =>
      if target == a.parent then
        let a := { a with audit := a.audit.touch c.user c.now }
        pure (a, ← storeChanges b a)
      else
        let level ← reparentLevel b c.tenant a.code target
        let levels := if level == a.level then []
          else subtreeLevels b c.tenant a.code (b.accounts.length + 1) [(a.code, level)] []
        let a := { a with parent := target, level, audit := a.audit.touch c.user c.now }
        pure (a, ← storeMove b a levels)
    | none =>
      let a := { a with audit := a.audit.touch c.user c.now }
      pure (a, ← storeChanges b a)
  match result with
  | .error f => (.error f, o)
  | .ok (a, books) => (.ok a, { o with books })

/-- Deactivates an account; an inactive account is left as it is. -/
def deactivateAccount (o : Office) (c : Ctx) (code : Ref) : Outcome Unit :=
  match accountByCode o.books c.tenant code with
  | .error f => (.error f, o)
  | .ok a =>
    if !a.active then (.ok (), o)
    else
      match storeChanges o.books { a with active := false, audit := a.audit.touch c.user c.now } with
      | .error f => (.error f, o)
      | .ok books => (.ok (), { o with books })

/-- The tenant's account with an identifier. -/
def accountById (b : Books) (tenant id : String) : Except Fault Account :=
  match b.accountById? id with
  | none => .error (.accountIdMissing id)
  | some a => if a.tenant != tenant then .error (.foreignAccount id) else .ok a

/-- The tenant's accounts of a type, named as given. -/
def accountsOfType (b : Books) (tenant type : String) : Except Fault (List Account) :=
  match AccountType.ofName? type with
  | none => .error (.unknownType type)
  | some t => .ok (b.accountsOf tenant (·.type == t))

/-- The tenant's active accounts. -/
def activeAccounts (b : Books) (tenant : String) : List Account := b.accountsOf tenant (·.active)

/-- The children of an existing account. -/
def childrenOf (b : Books) (tenant : String) (code : Ref) : Except Fault (List Account) := do
  let a ← accountByCode b tenant code
  pure (b.accountsOf tenant (·.parent == a.code))

end Office

end Ledger
