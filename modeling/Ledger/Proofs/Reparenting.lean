import Ledger.Proofs.Moves
import Ledger.Proofs.Statement

-- Changing an account's parent is accepted exactly when the chart stays a forest. In a forest
-- the walk up from the new parent ends at a root, never loops and never runs out of fuel, so
-- it refuses the move exactly when the new parent lies below the moved account; the store's
-- own walk then accepts, and the breadth-first walk below the account shifts the levels of
-- its whole subtree.

namespace Ledger

open Relation

-- `target` is the code of `a` itself or of an account of its tenant below it: as `a`'s parent
-- it would close a loop.
def Books.InSubtree (b : Books) (a : Account) (target : String) : Prop :=
  target = a.code ∨ ∃ d ∈ b.accounts, d.tenant = a.tenant ∧ d.code = target ∧ TransGen b.ParentLink d a

namespace Office

variable {b : Books}

theorem checkAncestry_root (t code target : String) (f : Nat) (seen : List String) :
    checkAncestry b t code target (f + 1) seen "" = .ok () := by
  simp [checkAncestry]

-- The parent a move looks up is the stored account of the tenant with that code, when there is
-- one; else the key is free, or another tenant's account sits under it.
theorem parentByCode_of_mem (nodup : (b.accounts.map Account.key).Nodup) {q : Account}
    (member : q ∈ b.accounts) : parentByCode b q.tenant q.code = .ok q := by
  have found : b.account? (accountKey q.tenant q.code) = some q :=
    (Books.account?_eq_some nodup).mpr ⟨member, rfl⟩
  simp [parentByCode, found]

theorem parentByCode_eq_error {t target : String} {f : Fault}
    (refused : parentByCode b t target = .error f) :
    f = .foreignParent target ∧ (∃ q ∈ b.accounts, q.key = accountKey t target ∧ q.tenant ≠ t) ∨
      f = .parentMissing target ∧ ∀ q ∈ b.accounts, q.key ≠ accountKey t target := by
  unfold parentByCode at refused
  split at refused
  · rename_i free
    cases refused
    exact .inr ⟨rfl, Books.account?_eq_none.mp free⟩
  · rename_i q found
    obtain ⟨member, keyed⟩ := Books.account?_some found
    split at refused
    · rename_i foreign
      cases refused
      exact .inl ⟨rfl, q, member, keyed, by simpa using foreign⟩
    · cases refused

section Forest

variable (chart : b.Hierarchy) (nodup : (b.accounts.map Account.key).Nodup)
  {a : Account} (stored : a ∈ b.accounts)

include chart nodup stored

-- The move's walk up from `cur`, having met the codes `seen` on the way, each the code of an
-- account below `cur` or `cur` itself: it meets `a` exactly when `cur` lies below `a`.
theorem climb_forest (target : String) :
    ∀ (fuel : Nat) (seen : List String) (cur : Account), cur ∈ b.accounts → cur.tenant = a.tenant →
      (∀ s ∈ seen, ∃ v ∈ b.accounts, v.tenant = a.tenant ∧ v.code = s ∧
        ReflTransGen b.ParentLink v cur) →
      (unseen b a.tenant seen).length < fuel →
      TransGen b.ParentLink cur a ∧
          climb b a.tenant a.code target fuel seen cur = .error (.descendantParent target a.code) ∨
        ¬ TransGen b.ParentLink cur a ∧ climb b a.tenant a.code target fuel seen cur = .ok ()
  | 0, _, _, _, _, _, short => absurd short (Nat.not_lt_zero _)
  | fuel + 1, seen, cur, member, tenant, walked, enough => by
    unfold climb
    split_ifs with root mine met
    · -- a root has no parent to lie below
      refine .inr ⟨fun below => ?_, rfl⟩
      obtain ⟨_, link, _⟩ := TransGen.head'_iff.mp below
      exact link.2.2.2 (by simpa using root)
    · exact .inl ⟨.single ⟨stored, tenant.symm, (beq_iff_eq.mp mine).symm, by simpa using root⟩, rfl⟩
    · -- a code met before is that of an account below `cur`, which would then lie below its own parent
      exfalso
      obtain ⟨next, link⟩ := chart.parented cur member (by simpa using root)
      obtain ⟨v, vStored, vTenant, vCode, above⟩ := walked cur.parent (by simpa using met)
      obtain rfl : v = next := Books.eq_of_key nodup vStored link.1
        (by rw [Account.key, Account.key, vTenant, vCode, link.2.1, link.2.2.1, tenant])
      exact chart.acyclic vStored (TransGen.tail' above link)
    · obtain ⟨next, link⟩ := chart.parented cur member (by simpa using root)
      have found : b.account? (accountKey a.tenant cur.parent) = some next :=
        (Books.account?_eq_some nodup).mpr ⟨link.1, by rw [Account.key, link.2.1, link.2.2.1, tenant]⟩
      rw [found]
      have apart : next ≠ a := fun same => mine (by rw [← link.2.2.1, same]; simp)
      have shrinks := unseen_shrinks b a.tenant found (by simpa using met)
      have walked' : ∀ s ∈ cur.parent :: seen, ∃ v ∈ b.accounts, v.tenant = a.tenant ∧ v.code = s ∧
          ReflTransGen b.ParentLink v next := by
        intro s listed
        rcases List.mem_cons.mp listed with rfl | older
        · exact ⟨next, link.1, link.2.1.trans tenant, link.2.2.1, .refl⟩
        · obtain ⟨v, vStored, vTenant, vCode, above⟩ := walked s older
          exact ⟨v, vStored, vTenant, vCode, above.tail link⟩
      -- `cur` lies below `a` exactly when its parent does, its parent not being `a`
      have step : TransGen b.ParentLink cur a ↔ TransGen b.ParentLink next a := by
        constructor
        · intro below
          obtain ⟨z, first, rest⟩ := TransGen.head'_iff.mp below
          obtain rfl : z = next := Books.ParentLink.unique nodup first link
          rcases reflTransGen_iff_eq_or_transGen.mp rest with same | further
          · exact absurd same.symm apart
          · exact further
        · exact TransGen.head link
      rw [step]
      exact climb_forest target fuel _ next link.1 (link.2.1.trans tenant) walked' (by omega)

-- The store's walk up from the account `y`, having met the codes of accounts below `y`,
-- accepts when `y` is neither `a` nor below it.
theorem checkAncestry_forest (target : String) :
    ∀ (fuel : Nat) (seen : List String) (y : Account), y ∈ b.accounts → y.tenant = a.tenant →
      ¬ ReflTransGen b.ParentLink y a →
      (∀ s ∈ seen, ∃ v ∈ b.accounts, v.tenant = a.tenant ∧ v.code = s ∧ TransGen b.ParentLink v y) →
      (unseen b a.tenant seen).length < fuel →
      checkAncestry b a.tenant a.code target fuel seen y.code = .ok ()
  | 0, _, _, _, _, _, _, short => absurd short (Nat.not_lt_zero _)
  | fuel + 1, seen, y, member, tenant, outside, walked, enough => by
    have key : y.key = accountKey a.tenant y.code := by rw [Account.key, tenant]
    unfold checkAncestry
    split_ifs with root mine met
    · rfl
    · -- the walk meets `a`'s code only at `a`
      obtain rfl : y = a := Books.eq_of_key nodup member stored
        (by rw [key, Account.key, beq_iff_eq.mp mine])
      exact absurd .refl outside
    · -- a code met before is that of an account below `y`, so `y` would lie below itself
      obtain ⟨v, vStored, vTenant, vCode, above⟩ := walked y.code (by simpa using met)
      obtain rfl : v = y := Books.eq_of_key nodup vStored member (by rw [Account.key, vTenant, vCode, key])
      exact absurd above (chart.acyclic vStored)
    · have found : b.account? (accountKey a.tenant y.code) = some y :=
        (Books.account?_eq_some nodup).mpr ⟨member, key⟩
      have shrinks := unseen_shrinks b a.tenant found (by simpa using met)
      rw [found]
      dsimp only
      by_cases top : y.parent = ""
      · obtain ⟨f, rfl⟩ : ∃ f, fuel = f + 1 := ⟨fuel - 1, by omega⟩
        rw [top]
        exact checkAncestry_root _ _ _ f _
      · obtain ⟨z, link⟩ := chart.parented y member top
        rw [← link.2.2.1]
        refine checkAncestry_forest target fuel _ z link.1 (link.2.1.trans tenant)
          (fun above => outside (ReflTransGen.head link above)) (fun s listed => ?_) (by omega)
        rcases List.mem_cons.mp listed with rfl | older
        · exact ⟨y, member, tenant, rfl, .single link⟩
        · obtain ⟨v, vStored, vTenant, vCode, above⟩ := walked s older
          exact ⟨v, vStored, vTenant, vCode, above.tail link⟩

-- The store's walk from a new parent that is none, or a stored account of the tenant outside
-- `a`'s subtree, accepts.
theorem checkAncestry_accepts {target : String}
    (outside : target = "" ∨ ∃ y ∈ b.accounts, y.tenant = a.tenant ∧ y.code = target ∧
      ¬ ReflTransGen b.ParentLink y a) :
    checkAncestry b a.tenant a.code target (b.accounts.length + 1) [] target = .ok () := by
  rcases outside with rfl | ⟨y, member, tenant, rfl, away⟩
  · exact checkAncestry_root _ _ _ _ _
  · have bound := unseen_length_le b a.tenant []
    exact checkAncestry_forest chart nodup stored _ _ [] y member tenant away (by simp) (by omega)

-- The level a move to `target` computes, in a forest: the walk from the parent found refuses
-- exactly a parent below the moved account.
theorem reparentLevel_forest {target : String} {q : Account} (given : target ≠ "")
    (other : target ≠ a.code) (found : parentByCode b a.tenant target = .ok q) :
    TransGen b.ParentLink q a ∧
        reparentLevel b a.tenant a.code target = .error (.descendantParent target a.code) ∨
      ¬ TransGen b.ParentLink q a ∧ reparentLevel b a.tenant a.code target = .ok (q.level + 1) := by
  obtain ⟨member, tenant, _⟩ := parentByCode_eq_ok found
  have bound := unseen_length_le b a.tenant [q.code]
  have walk := climb_forest chart nodup stored target (b.accounts.length + 1) [q.code] q member tenant
    (fun s listed => ⟨q, member, tenant, (List.mem_singleton.mp listed).symm, .refl⟩) (by omega)
  have notEmpty : target.isEmpty = false := by simpa using given
  have notOwn : (target == a.code) = false := by simpa using other
  unfold reparentLevel
  rcases walk with ⟨below, refused⟩ | ⟨notBelow, accepted⟩
  · exact .inl ⟨below, by simp [notEmpty, notOwn, found, refused, bind, Except.bind]⟩
  · exact .inr ⟨notBelow, by simp [notEmpty, notOwn, found, accepted, bind, Except.bind, pure,
      Except.pure]⟩

-- A new parent outside `a`'s subtree is neither `a` nor below it.
omit chart nodup stored in
theorem outside_of_not_inSubtree {target : String} (outside : ¬ b.InSubtree a target) :
    ∀ q ∈ b.accounts, q.tenant = a.tenant → q.code = target → ¬ ReflTransGen b.ParentLink q a := by
  intro q member tenant code above
  rcases reflTransGen_iff_eq_or_transGen.mp above with same | below
  · exact outside (.inl (by rw [← code, same]))
  · exact outside (.inr ⟨q, member, tenant, code, below⟩)

-- A new parent outside `a`'s subtree that is none, or a stored account of the tenant, gives
-- the move its level: zero, or one below the parent.
theorem reparentLevel_placed {target : String} (outside : ¬ b.InSubtree a target)
    (placed : target = "" ∨ ∃ q ∈ b.accounts, q.tenant = a.tenant ∧ q.code = target) :
    ∃ level, reparentLevel b a.tenant a.code target = .ok level ∧
      (target = "" ∧ level = 0 ∨
        ∃ q ∈ b.accounts, q.tenant = a.tenant ∧ q.code = target ∧ target ≠ "" ∧ level = q.level + 1) := by
  rcases placed with rfl | ⟨q, member, tenant, rfl⟩
  · exact ⟨0, by simp [reparentLevel, pure, Except.pure], .inl ⟨rfl, rfl⟩⟩
  · have given := chart.named q member
    have other : q.code ≠ a.code := fun same => outside (.inl same)
    have found : parentByCode b a.tenant q.code = .ok q := tenant ▸ parentByCode_of_mem nodup member
    rcases reparentLevel_forest chart nodup stored given other found with ⟨below, _⟩ | ⟨_, leveled⟩
    · exact absurd (.inr ⟨q, member, tenant, rfl, below⟩) outside
    · exact ⟨_, leveled, .inr ⟨q, member, tenant, rfl, given, rfl⟩⟩

end Forest

theorem reparentLevel_own {t code : String} (named : code ≠ "") :
    reparentLevel b t code code = .error (.ownParent code) := by
  have notEmpty : code.isEmpty = false := by simpa using named
  simp [reparentLevel, notEmpty, throw, throwThe, MonadExceptOf.throw, bind, Except.bind]

theorem reparentLevel_unplaced {t code target : String} {f : Fault} (given : target ≠ "")
    (other : target ≠ code) (refused : parentByCode b t target = .error f) :
    reparentLevel b t code target = .error f := by
  have notEmpty : target.isEmpty = false := by simpa using given
  have notOwn : (target == code) = false := by simpa using other
  simp [reparentLevel, notEmpty, notOwn, refused, bind, Except.bind]

-- A move whose every named account is stored and whose walk up from the new parent accepts is
-- stored.
theorem storeMove_accepts {moved : Account} {levels : List (String × Nat)}
    (present : ∀ code ∈ moved.code :: levels.map (·.1), b.account? (accountKey moved.tenant code) ≠ none)
    (walked : checkAncestry b moved.tenant moved.code moved.parent (b.accounts.length + 1) [] moved.parent =
      .ok ()) :
    ∃ b', storeMove b moved levels = .ok b' := by
  unfold storeMove
  generalize moved.code :: levels.map (·.1) = codes at present
  -- every code the store checks names a stored account, so its loop of checks passes
  have checked : (forIn codes PUnit.unit fun code _ =>
      if (b.account? (accountKey moved.tenant code)).isNone = true then do
        throw (Fault.accountMissing code)
        pure (ForInStep.yield PUnit.unit)
      else pure (ForInStep.yield PUnit.unit) : Except Fault PUnit) = .ok PUnit.unit := by
    induction codes with
    | nil => rfl
    | cons code rest ih =>
      have here : (b.account? (accountKey moved.tenant code)).isNone = false := by
        simpa [Option.isSome_iff_ne_none] using present code List.mem_cons_self
      rw [List.forIn_cons, here]
      exact ih fun code' listed => present code' (List.mem_cons_of_mem _ listed)
  rw [checked]
  exact ⟨_, by simp only [bind, Except.bind, walked]; rfl⟩

theorem foldl_relevel_balance (a : Account) (levels : List (String × Nat)) (x : Account) :
    (levels.foldl (relevel a) x).balance = x.balance := by
  induction levels generalizing x with
  | nil => rfl
  | cons w rest ih =>
    rw [List.foldl_cons, ih]
    unfold relevel
    split <;> rfl

-- A move writes parents, levels and audit fields only: every balance stays.
theorem movedTo_balance (moved : Account) (levels : List (String × Nat)) (x : Account) :
    (movedTo moved levels x).balance = x.balance := by
  unfold movedTo
  rw [foldl_relevel_balance]
  split <;> rfl

-- Every other account keeps its tenant, code, balance and parent; those below the moved one
-- shift their level with it, and the rest keep theirs.
theorem Move.others_kept {a moved : Account} {levels : List (String × Nat)} (move : Move b a moved levels)
    (nodup : (b.accounts.map Account.key).Nodup) {x : Account} (member : x ∈ b.accounts) :
    (movedTo moved levels x).tenant = x.tenant ∧ (movedTo moved levels x).code = x.code ∧
      (movedTo moved levels x).balance = x.balance ∧
      (x ≠ a → (movedTo moved levels x).parent = x.parent ∧
        (TransGen b.ParentLink x a → (movedTo moved levels x).level + a.level = x.level + moved.level) ∧
        (¬ TransGen b.ParentLink x a → (movedTo moved levels x).level = x.level)) := by
  obtain ⟨keepsTenant, keepsCode⟩ := movedTo_place moved levels x
  refine ⟨keepsTenant, keepsCode, movedTo_balance moved levels x, fun differ => ?_⟩
  obtain ⟨keepsParent, shift⟩ := move.other nodup member differ
  refine ⟨keepsParent, fun below => ?_, fun notBelow => ?_⟩
  · rcases shift with ⟨_, shifted⟩ | ⟨notBelow, _⟩
    · exact shifted
    · exact absurd below notBelow
  · rcases shift with ⟨below, _⟩ | ⟨_, kept⟩
    · exact absurd below notBelow
    · exact kept

variable {o : Office} {c : Ctx}

-- A change of the parent alone, to one other than the current, is the move of the account
-- found: the level the move computes, then the store's move of the account and its subtree.
theorem updateAccount_reparent {code : Ref} {a : Account} {target : String}
    (found : accountByCode o.books c.tenant code = .ok a) (moving : target ≠ a.parent) :
    o.updateAccount c code { parent := some target } =
      match reparentLevel o.books c.tenant a.code target with
      | .error f => (.error f, o)
      | .ok level =>
        let moved := { a with parent := target, level, audit := a.audit.touch c.user c.now }
        match storeMove o.books moved (if level == a.level then [] else
            subtreeLevels o.books c.tenant a.code (o.books.accounts.length + 1) [(a.code, level)] []) with
        | .error f => (.error f, o)
        | .ok books => (.ok moved, { o with books }) := by
  have valid : AccountPatch.violation { parent := some target } = none := rfl
  unfold updateAccount
  simp only [valid, found, bind, Except.bind, Option.getD_none, beq_iff_eq, moving, if_false]
  cases reparentLevel o.books c.tenant a.code target with
  | error f => rfl
  | ok level =>
    dsimp only
    cases storeMove o.books { a with parent := target, level, audit := a.audit.touch c.user c.now }
      (if level = a.level then [] else
        subtreeLevels o.books c.tenant a.code (o.books.accounts.length + 1) [(a.code, level)] []) <;> rfl

section Change

variable (chart : o.books.Hierarchy) (sound : o.books.Wellformed) {a : Account}
  (stored : a ∈ o.books.accounts) (tenant : a.tenant = c.tenant) {target : String}
  (moving : target ≠ a.parent)

include chart sound stored tenant moving

-- A move into the account's own subtree is refused as a loop, and changes nothing.
theorem updateAccount_inSubtree (loop : o.books.InSubtree a target) :
    ∃ f, o.updateAccount c a.code { parent := some target } = (.error f, o) ∧
      f.sentinel = some .cyclicHierarchy := by
  have found : accountByCode o.books c.tenant a.code = .ok a := tenant ▸ accountByCode_of_mem sound stored
  rw [updateAccount_reparent found moving, ← tenant]
  rcases loop with rfl | ⟨d, member, dTenant, rfl, below⟩
  · rw [reparentLevel_own (chart.named a stored)]
    exact ⟨_, rfl, rfl⟩
  · have other : d.code ≠ a.code := fun same => chart.acyclic stored (by
      rwa [Books.eq_of_key sound.accountKeys member stored (by rw [Account.key, Account.key, dTenant, same])]
        at below)
    have parent : parentByCode o.books a.tenant d.code = .ok d :=
      dTenant ▸ parentByCode_of_mem sound.accountKeys member
    rcases reparentLevel_forest chart sound.accountKeys stored (chart.named d member) other parent with
      ⟨_, refused⟩ | ⟨notBelow, _⟩
    · rw [refused]
      exact ⟨_, rfl, rfl⟩
    · exact absurd below notBelow

omit chart sound stored tenant in
-- A parent that is not the tenant's stored account refuses the move as the lookup does.
theorem updateAccount_unplaced (found : accountByCode o.books c.tenant a.code = .ok a)
    (given : target ≠ "") (other : target ≠ a.code) {f : Fault}
    (refused : parentByCode o.books c.tenant target = .error f) :
    o.updateAccount c a.code { parent := some target } = (.error f, o) := by
  rw [updateAccount_reparent found moving, reparentLevel_unplaced given other refused]

-- A move to a root, or under a stored account of the tenant outside the account's subtree, is
-- the store's move of the account and its subtree.
theorem updateAccount_moves (outside : ¬ o.books.InSubtree a target)
    (placed : target = "" ∨ ∃ q ∈ o.books.accounts, q.tenant = a.tenant ∧ q.code = target) :
    ∃ moved levels books, o.updateAccount c a.code { parent := some target } = (.ok moved, { o with books }) ∧
      moved.parent = target ∧ Move o.books a moved levels ∧
      books.accounts = o.books.accounts.map (movedTo moved levels) := by
  have nodup := sound.accountKeys
  obtain ⟨level, leveled, place⟩ := reparentLevel_placed chart nodup stored outside placed
  let moved := { a with parent := target, level, audit := a.audit.touch c.user c.now }
  obtain ⟨shifted, complete⟩ := moveLevels chart nodup stored level
  have move : Move o.books a moved _ := ⟨stored, rfl, rfl, place, outside_of_not_inSubtree outside, shifted,
    complete⟩
  -- the store finds every account the move names, and its walk from the new parent accepts
  have present : ∀ code ∈ moved.code :: (if level == a.level then [] else subtreeLevels o.books a.tenant
      a.code (o.books.accounts.length + 1) [(a.code, level)] []).map (·.1),
      o.books.account? (accountKey moved.tenant code) ≠ none := by
    intro code listed
    rcases List.mem_cons.mp listed with rfl | named
    · have found : o.books.account? (accountKey a.tenant a.code) = some a :=
        (Books.account?_eq_some nodup).mpr ⟨stored, rfl⟩
      simp [found, moved]
    · obtain ⟨w, member, rfl⟩ := List.mem_map.mp named
      obtain ⟨y, yStored, yTenant, yCode, _⟩ := shifted w member
      simp [(Books.account?_eq_some nodup).mpr ⟨yStored, by rw [Account.key, yTenant, yCode]⟩, moved]
  have onward : target = "" ∨ ∃ y ∈ o.books.accounts, y.tenant = a.tenant ∧ y.code = target ∧
      ¬ ReflTransGen o.books.ParentLink y a := by
    rcases place with ⟨top, _⟩ | ⟨q, member, qTenant, code, _, _⟩
    · exact .inl top
    · exact .inr ⟨q, member, qTenant, code, outside_of_not_inSubtree outside q member qTenant code⟩
  have walked := checkAncestry_accepts chart nodup stored onward
  obtain ⟨books, accepted⟩ := storeMove_accepts present walked
  refine ⟨moved, _, books, ?_, rfl, move, (storeMove_eq_ok accepted).2⟩
  have found : accountByCode o.books c.tenant a.code = .ok a := tenant ▸ accountByCode_of_mem sound stored
  rw [updateAccount_reparent found moving, ← tenant, leveled]
  dsimp only
  rw [accepted]

end Change

end Office

-- In every session, changing only the parent of an account to a code other than its current
-- parent is refused as a loop exactly when the new parent is the account itself or lies below
-- it. Otherwise it is refused exactly when the tenant has no account with that code, the store
-- key being free or held by another tenant's account. Otherwise the account moves under the
-- new parent, one level below it, and its subtree moves with it: every account below keeps its
-- parent and shifts its level by as much, and every other account keeps its place and level.
-- No balance changes, and a refusal leaves the office as it was.
theorem parent_changes_keep_a_forest (pageSize : Nat) (calls : List Call) (c : Ctx) (p : String) :
    let o := (Office.start pageSize).run calls
    ∀ a ∈ o.books.accounts, a.tenant = c.tenant → p ≠ a.parent →
      let r := o.updateAccount c a.code { parent := some p }
      let cyclic := p = a.code ∨
        ∃ d ∈ o.books.accounts, d.tenant = c.tenant ∧ d.code = p ∧ TransGen o.books.ParentLink d a
      let missing := p ≠ "" ∧ ¬ ∃ q ∈ o.books.accounts, q.tenant = c.tenant ∧ q.code = p
      ((∃ f, r.1 = .error f ∧ f.sentinel = some .cyclicHierarchy) ↔ cyclic) ∧
      (¬ cyclic → ((∃ f, r.1 = .error f) ↔ missing)) ∧
      (∀ f, r.1 = .error f → ¬ cyclic →
        f = .foreignParent p ∧
          (∃ q ∈ o.books.accounts, q.key = accountKey c.tenant p ∧ q.tenant ≠ c.tenant) ∨
        f = .parentMissing p ∧ ∀ q ∈ o.books.accounts, q.key ≠ accountKey c.tenant p) ∧
      (∀ f, r.1 = .error f → r.2 = o) ∧
      ∀ moved, r.1 = .ok moved → moved.parent = p ∧
        (p = "" ∧ moved.level = 0 ∨
          ∃ q ∈ o.books.accounts, q.tenant = c.tenant ∧ q.code = p ∧ moved.level = q.level + 1) ∧
        ∃ g : Account → Account, r.2.books.accounts = o.books.accounts.map g ∧
          (g a).parent = p ∧ (g a).level = moved.level ∧
          ∀ x ∈ o.books.accounts, (g x).tenant = x.tenant ∧ (g x).code = x.code ∧
            (g x).balance = x.balance ∧
            (x ≠ a → (g x).parent = x.parent ∧
              (TransGen o.books.ParentLink x a → (g x).level + a.level = x.level + moved.level) ∧
              (¬ TransGen o.books.ParentLink x a → (g x).level = x.level)) := by
  intro o a stored tenant moving r cyclic missing
  have sound := Office.run_wellformed pageSize calls
  have chart := Office.run_hierarchy pageSize calls
  have nodup := sound.accountKeys
  have closes : cyclic ↔ o.books.InSubtree a p := by
    simp only [cyclic, Books.InSubtree, tenant]
  by_cases loop : o.books.InSubtree a p
  · -- a loop is refused as such, whatever else holds
    obtain ⟨f, refused, kind⟩ := Office.updateAccount_inSubtree chart sound stored tenant moving loop
    have outcome : r = (.error f, o) := refused
    refine ⟨iff_of_true ⟨f, by rw [outcome], kind⟩ (closes.mpr loop),
      fun notCyclic => absurd (closes.mpr loop) notCyclic,
      fun _ _ notCyclic => absurd (closes.mpr loop) notCyclic, fun _ _ => by rw [outcome],
      fun moved done => ?_⟩
    rw [outcome] at done
    cases done
  have notCyclic : ¬ cyclic := fun held => loop (closes.mp held)
  by_cases placed : p = "" ∨ ∃ q ∈ o.books.accounts, q.tenant = a.tenant ∧ q.code = p
  · -- accepted: the store's move of the account and its subtree
    obtain ⟨moved, levels, books, accepted, parent, move, accounts⟩ :=
      Office.updateAccount_moves chart sound stored tenant moving loop placed
    have outcome : r = (.ok moved, { o with books }) := accepted
    have present : ¬ missing := by
      rintro ⟨given, none⟩
      rcases placed with empty | ⟨q, member, qTenant, code⟩
      · exact given empty
      · exact none ⟨q, member, qTenant.trans tenant, code⟩
    refine ⟨iff_of_false (fun ⟨_, failed, _⟩ => by rw [outcome] at failed; cases failed) notCyclic,
      fun _ => iff_of_false (fun ⟨_, failed⟩ => by rw [outcome] at failed; cases failed) present,
      fun _ failed => (by rw [outcome] at failed; cases failed),
      fun _ failed => (by rw [outcome] at failed; cases failed), fun moved' done => ?_⟩
    rw [outcome] at done
    cases done
    obtain ⟨selfParent, selfLevel⟩ := move.self chart nodup
    refine ⟨parent, ?_, Office.movedTo moved levels, by rw [outcome]; exact accounts,
      selfParent.trans parent, selfLevel, fun x member => move.others_kept nodup member⟩
    rcases move.placed with ⟨top, root⟩ | ⟨q, member, qTenant, code, _, above⟩
    · exact .inl ⟨parent ▸ top, root⟩
    · exact .inr ⟨q, member, qTenant.trans tenant, code.trans parent, above⟩
  · -- refused by the lookup of the new parent
    have given : p ≠ "" := fun empty => placed (.inl empty)
    have other : p ≠ a.code := fun same => loop (.inl same)
    obtain ⟨f, refused⟩ : ∃ f, Office.parentByCode o.books c.tenant p = .error f := by
      cases lookup : Office.parentByCode o.books c.tenant p with
      | error f => exact ⟨f, rfl⟩
      | ok q =>
        obtain ⟨member, qTenant, code⟩ := Office.parentByCode_eq_ok lookup
        exact absurd (.inr ⟨q, member, qTenant.trans tenant.symm, code⟩) placed
    have found : Office.accountByCode o.books c.tenant a.code = .ok a :=
      tenant ▸ Office.accountByCode_of_mem sound stored
    have outcome : r = (.error f, o) := Office.updateAccount_unplaced moving found given other refused
    have kinds := Office.parentByCode_eq_error refused
    -- neither fault of the lookup is a loop
    have notLoop : f.sentinel ≠ some .cyclicHierarchy := by
      rcases kinds with ⟨rfl, _⟩ | ⟨rfl, _⟩ <;> simp [Fault.sentinel]
    have isMissing : missing := ⟨given, fun ⟨q, member, qTenant, code⟩ =>
      placed (.inr ⟨q, member, qTenant.trans tenant.symm, code⟩)⟩
    refine ⟨iff_of_false (fun ⟨_, failed, kind⟩ => by rw [outcome] at failed; cases failed; exact notLoop kind)
        notCyclic, fun _ => iff_of_true ⟨f, by rw [outcome]⟩ isMissing,
      fun _ failed _ => (by rw [outcome] at failed; cases failed; exact kinds),
      fun _ _ => by rw [outcome], fun _ done => (by rw [outcome] at done; cases done)⟩

-- Moving a root under its own grandchild is refused as a loop.
theorem root_under_grandchild_refused :
    let o := (Office.start 20).run
      [.registerAccount ⟨"T1", "u1", Timestamp.zero⟩ { code := "1000", name := "Assets", type := "ASSET" },
       .registerAccount ⟨"T1", "u1", Timestamp.zero⟩
         { code := "1100", name := "Cash", type := "ASSET", parent := some "1000" },
       .registerAccount ⟨"T1", "u1", Timestamp.zero⟩
         { code := "1110", name := "Petty cash", type := "ASSET", parent := some "1100" }]
    let a := o.books.accounts.headD default
    a ∈ o.books.accounts ∧ a.tenant = "T1" ∧ "1110" ≠ a.parent ∧
      ∃ f, (o.updateAccount ⟨"T1", "u2", Timestamp.zero⟩ a.code { parent := some "1110" }).1 = .error f ∧
        f.sentinel = some .cyclicHierarchy := by
  intro o a
  have member : a ∈ o.books.accounts := by decide +kernel
  have tenant : a.tenant = "T1" := by decide +kernel
  have moving : "1110" ≠ a.parent := by decide +kernel
  -- the grandchild lies two parent links below
  let d := o.books.accounts.getLastD default
  let m := o.books.accounts.getD 1 default
  have below : TransGen o.books.ParentLink d a :=
    TransGen.head (b := m) ⟨by decide +kernel, by decide +kernel, by decide +kernel, by decide +kernel⟩
      (.single ⟨by decide +kernel, by decide +kernel, by decide +kernel, by decide +kernel⟩)
  obtain ⟨loop, _⟩ := parent_changes_keep_a_forest 20 _ ⟨"T1", "u2", Timestamp.zero⟩ "1110" a member
    tenant moving
  exact ⟨member, tenant, moving,
    loop.mpr (.inr ⟨d, by decide +kernel, by decide +kernel, by decide +kernel, below⟩)⟩

end Ledger
