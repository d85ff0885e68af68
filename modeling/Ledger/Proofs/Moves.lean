import Ledger.Proofs.Hierarchy
import Ledger.Proofs.TenantCharts

-- Moving an account under a new parent keeps the chart a forest. The store's walk up from the
-- new parent refuses the moved account and every account below it, so the new parent stays
-- outside the moved subtree. The breadth-first walk below the moved account reaches exactly
-- the accounts below it and gives each its level shifted by the move, so every parent link
-- still spans one level.

namespace Ledger

open Relation

namespace Books

variable {b : Books}

theorem transGen_tenant {x a : Account} (below : TransGen b.ParentLink x a) : x.tenant = a.tenant := by
  induction below with
  | single link => exact link.2.1.symm
  | tail _ link ih => exact ih.trans link.2.1.symm

theorem mem_accountsOf_parent {t c : String} {y : Account} :
    y ∈ b.accountsOf t (·.parent == c) ↔ y ∈ b.accounts ∧ y.tenant = t ∧ y.parent = c := by
  simp only [accountsOf, byCode, mem_sortBy, List.mem_filter, Bool.and_eq_true, beq_iff_eq]

end Books

namespace Office

variable {b b' : Books}

-- A walk up from `cur` that the store accepts never meets `a`: the account of `a`'s tenant
-- with code `cur`, if there is one, is neither `a` nor below it.
theorem checkAncestry_eq_ok (chart : b.Hierarchy) (nodup : (b.accounts.map Account.key).Nodup)
    {a : Account} (target : String) :
    ∀ (f : Nat) (seen : List String) (cur : String),
      checkAncestry b a.tenant a.code target f seen cur = .ok () →
        ∀ y ∈ b.accounts, y.tenant = a.tenant → y.code = cur → ¬ ReflTransGen b.ParentLink y a
  | 0, _, _, walked => by cases walked
  | f + 1, seen, cur, walked => by
    intro y stored tenant code below
    unfold checkAncestry at walked
    split_ifs at walked with root mine met
    · exact chart.named y stored (code.trans (by simpa using root))
    cases found : b.account? (accountKey a.tenant cur) with
    | none =>
      rw [found] at walked
      cases walked
    | some p =>
      rw [found] at walked
      obtain ⟨stored', keyed⟩ := Books.account?_some found
      obtain rfl : y = p :=
        Books.eq_of_key nodup stored stored' (by rw [keyed, Account.key, tenant, code])
      rcases ReflTransGen.cases_head below with here | ⟨z, link, above⟩
      · exact mine (by simp [← code, here])
      · exact checkAncestry_eq_ok chart nodup target f _ _ walked z link.1
          (link.2.1.trans tenant) link.2.2.1 above

-- A pair of the walk below `a` names an account of `a`'s tenant lying below `a` (as `below`
-- says), and its level is that account's own, shifted by the move of `a` to `level`.
def Shifted (b : Books) (a : Account) (level : Nat) (below : Account → Prop) (w : String × Nat) :
    Prop :=
  ∃ y ∈ b.accounts, y.tenant = a.tenant ∧ y.code = w.1 ∧ below y ∧ w.2 + a.level = y.level + level

theorem Shifted.mono {a : Account} {level : Nat} {below below' : Account → Prop}
    (weaker : ∀ y, below y → below' y) {w : String × Nat} (shifted : Shifted b a level below w) :
    Shifted b a level below' w := by
  obtain ⟨y, stored, tenant, code, lower, level⟩ := shifted
  exact ⟨y, stored, tenant, code, weaker y lower, level⟩

-- A pair of the walk written under a stored account's key is about that account.
theorem Shifted.of_key (nodup : (b.accounts.map Account.key).Nodup) {a x : Account} {level : Nat}
    {below : Account → Prop} {w : String × Nat} (shifted : Shifted b a level below w)
    (member : x ∈ b.accounts) (keyed : x.key = accountKey a.tenant w.1) :
    below x ∧ w.2 + a.level = x.level + level := by
  obtain ⟨y, stored, tenant, code, lower, level⟩ := shifted
  obtain rfl : y = x := Books.eq_of_key nodup stored member (by
    rw [Account.key, tenant, code]
    exact keyed.symm)
  exact ⟨lower, level⟩

-- A child of an account met by the walk lies strictly below `a`, one level further down.
theorem Shifted.child (chart : b.Hierarchy) {a : Account} {level lvl : Nat} {c : String}
    (parent : Shifted b a level (ReflTransGen b.ParentLink · a) (c, lvl)) {y : Account}
    (child : y ∈ b.accountsOf a.tenant (·.parent == c)) :
    Shifted b a level (TransGen b.ParentLink · a) (y.code, lvl + 1) := by
  obtain ⟨x, stored, tenant, code, above, level⟩ := parent
  obtain ⟨stored', tenant', parent'⟩ := Books.mem_accountsOf_parent.mp child
  dsimp only at code level
  have given : y.parent ≠ "" := by
    rw [parent', ← code]
    exact chart.named x stored
  have link : b.ParentLink y x := ⟨stored, tenant.trans tenant'.symm, code.trans parent'.symm, given⟩
  have lower := chart.leveled y stored' x link
  exact ⟨y, stored', tenant', rfl, TransGen.head' link above, by dsimp only; omega⟩

-- One round of the walk appends the same new pairs to the queue and to the levels, each a
-- child one level down, and leaves every child reached.
theorem foldl_enqueue (code : String) (lvl : Nat) (children : List Account) :
    ∀ queue levels : List (String × Nat), ∃ added,
      children.foldl (enqueue code lvl) (queue, levels) = (queue ++ added, levels ++ added) ∧
      (∀ w ∈ added, ∃ y ∈ children, w = (y.code, lvl + 1)) ∧
      ∀ y ∈ children, y.code = code ∨ ∃ l, (y.code, l) ∈ levels ++ added := by
  induction children with
  | nil => exact fun queue levels => ⟨[], by simp, by simp, by simp⟩
  | cons child rest ih =>
    intro queue levels
    rw [List.foldl_cons]
    have later : ∀ added : List (String × Nat), (∀ w ∈ added, ∃ y ∈ rest, w = (y.code, lvl + 1)) →
        ∀ w ∈ added, ∃ y ∈ child :: rest, w = (y.code, lvl + 1) := fun _ fromRest w m =>
      (fromRest w m).imp fun _ ⟨member, named⟩ => ⟨List.mem_cons_of_mem _ member, named⟩
    by_cases skip : (levels.any (·.1 == child.code) || child.code == code) = true
    · rw [enqueue, if_pos skip]
      obtain ⟨added, result, fromRest, reached⟩ := ih queue levels
      refine ⟨added, result, later added fromRest, fun y member => ?_⟩
      rcases List.mem_cons.mp member with rfl | other
      · simp only [Bool.or_eq_true, List.any_eq_true, beq_iff_eq] at skip
        rcases skip with ⟨⟨c, l⟩, levelled, named⟩ | own
        · exact .inr ⟨l, List.mem_append_left _ (named ▸ levelled)⟩
        · exact .inl own
      · exact reached y other
    · rw [enqueue, if_neg skip]
      obtain ⟨added, result, fromRest, reached⟩ :=
        ih (queue ++ [(child.code, lvl + 1)]) (levels ++ [(child.code, lvl + 1)])
      refine ⟨(child.code, lvl + 1) :: added, by simpa using result, fun w m => ?_, fun y m => ?_⟩
      · rcases List.mem_cons.mp m with rfl | other
        · exact ⟨child, List.mem_cons_self, rfl⟩
        · exact later added fromRest w other
      · rcases List.mem_cons.mp m with rfl | other
        · exact .inr ⟨lvl + 1, by simp⟩
        · simpa using reached y other

-- Every pair the walk levels names an account strictly below `a` at its shifted level. The
-- invariant carried: queued pairs lie at or below `a`, levelled pairs strictly below.
theorem subtreeLevels_shifted (chart : b.Hierarchy) (a : Account) (level : Nat) :
    ∀ (f : Nat) (queue levels : List (String × Nat)),
      (∀ w ∈ queue, Shifted b a level (ReflTransGen b.ParentLink · a) w) →
      (∀ w ∈ levels, Shifted b a level (TransGen b.ParentLink · a) w) →
      ∀ w ∈ subtreeLevels b a.tenant a.code f queue levels,
        Shifted b a level (TransGen b.ParentLink · a) w
  | 0, _, _, _, sound => sound
  | f + 1, [], levels, _, sound => by
    rw [subtreeLevels_nil]
    exact sound
  | f + 1, (c, lvl) :: queue, levels, queued, sound => by
    rw [subtreeLevels_cons]
    obtain ⟨added, result, fromChildren, _⟩ :=
      foldl_enqueue a.code lvl (b.accountsOf a.tenant (·.parent == c)) queue levels
    rw [result]
    have children : ∀ w ∈ added, Shifted b a level (TransGen b.ParentLink · a) w := by
      intro w m
      obtain ⟨y, child, rfl⟩ := fromChildren w m
      exact (queued _ List.mem_cons_self).child chart child
    refine subtreeLevels_shifted chart a level f _ _ (fun w m => ?_) (fun w m => ?_)
    · rcases List.mem_append.mp m with old | new
      · exact queued w (List.mem_cons_of_mem _ old)
      · exact (children w new).mono fun _ lower => lower.to_reflTransGen
    · rcases List.mem_append.mp m with old | new
      · exact sound w old
      · exact children w new

-- Every code the walk below `code` has reached is still queued, or has all its children
-- reached.
def Closed (b : Books) (t code : String) (queue levels : List (String × Nat)) : Prop :=
  ∀ c, (c = code ∨ ∃ l, (c, l) ∈ levels) → (∃ l, (c, l) ∈ queue) ∨
    ∀ y ∈ b.accountsOf t (·.parent == c), y.code = code ∨ ∃ l, (y.code, l) ∈ levels

-- With fuel for every account of the tenant, the walk ends with its queue empty, so every
-- code it reached has all its children reached.
theorem subtreeLevels_closed (b : Books) (t code : String) :
    ∀ (f : Nat) (queue levels : List (String × Nat)),
      queue.length + (unleveled b t levels).length ≤ f → Closed b t code queue levels →
        Closed b t code [] (subtreeLevels b t code f queue levels)
  | _, [], levels, _, closed => by
    rw [subtreeLevels_nil]
    exact closed
  | 0, _ :: _, _, short, _ => absurd short (by simp)
  | f + 1, (c0, lvl) :: queue, levels, enough, closed => by
    rw [subtreeLevels_cons]
    have measure := foldl_enqueue_measure b t code lvl _ (kin_accountsOf b t (·.parent == c0)) queue levels
    obtain ⟨added, result, _, reached⟩ :=
      foldl_enqueue code lvl (b.accountsOf t (·.parent == c0)) queue levels
    rw [result] at measure ⊢
    simp only [List.length_cons] at enough
    refine subtreeLevels_closed b t code f _ _ (by omega) fun c seen => ?_
    by_cases queued : ∃ l, (c, l) ∈ added
    · exact .inl (queued.imp fun _ m => List.mem_append_right _ m)
    have old : c = code ∨ ∃ l, (c, l) ∈ levels := by
      rcases seen with own | ⟨l, m⟩
      · exact .inl own
      · rcases List.mem_append.mp m with old | new
        · exact .inr ⟨l, old⟩
        · exact absurd ⟨l, new⟩ queued
    rcases closed c old with ⟨l, m⟩ | done
    · rcases List.mem_cons.mp m with same | later
      · -- the code just taken off the queue: this round reached all its children
        obtain ⟨rfl, -⟩ := Prod.mk.inj same
        exact .inr reached
      · exact .inl ⟨l, List.mem_append_left _ later⟩
    · exact .inr fun y child => (done y child).imp_right fun ⟨l, m⟩ => ⟨l, List.mem_append_left _ m⟩

-- Every account below `a` is levelled by the walk started at `a` with fuel for every account.
theorem subtreeLevels_reaches (chart : b.Hierarchy) (nodup : (b.accounts.map Account.key).Nodup)
    {a : Account} (member : a ∈ b.accounts) (level : Nat) {y : Account} (stored : y ∈ b.accounts)
    (below : TransGen b.ParentLink y a) :
    ∃ l, (y.code, l) ∈ subtreeLevels b a.tenant a.code (b.accounts.length + 1) [(a.code, level)] [] := by
  have fits : [(a.code, level)].length + (unleveled b a.tenant []).length ≤ b.accounts.length + 1 := by
    have bound : (unleveled b a.tenant []).length ≤ b.accounts.length := List.length_filter_le _ _
    simp only [List.length_singleton]
    omega
  have start : Closed b a.tenant a.code [(a.code, level)] [] := by
    rintro c (rfl | ⟨l, m⟩)
    · exact .inl ⟨level, List.mem_singleton_self _⟩
    · simp at m
  have closed := subtreeLevels_closed b a.tenant a.code _ _ _ fits start
  have down : ∀ c, (c = a.code ∨ ∃ l, (c, l) ∈ subtreeLevels b a.tenant a.code
      (b.accounts.length + 1) [(a.code, level)] []) →
      ∀ x ∈ b.accountsOf a.tenant (·.parent == c), x.code = a.code ∨
        ∃ l, (x.code, l) ∈ subtreeLevels b a.tenant a.code (b.accounts.length + 1) [(a.code, level)] [] := by
    intro c seen
    rcases closed c seen with ⟨l, m⟩ | done
    · simp at m
    · exact done
  -- induction along the links from `y` up to `a`: each account's parent is reached first
  have reached : ∀ x, TransGen b.ParentLink x a → x ∈ b.accounts → x.code = a.code ∨
      ∃ l, (x.code, l) ∈ subtreeLevels b a.tenant a.code (b.accounts.length + 1) [(a.code, level)] [] := by
    intro x lower
    induction lower using TransGen.head_induction_on with
    | single link =>
      intro stored'
      exact down a.code (.inl rfl) _
        (Books.mem_accountsOf_parent.mpr ⟨stored', link.2.1.symm, link.2.2.1.symm⟩)
    | head link rest reach =>
      intro stored'
      exact down _ (reach link.1) _ (Books.mem_accountsOf_parent.mpr
        ⟨stored', Books.transGen_tenant (rest.head link), link.2.2.1.symm⟩)
  rcases reached y below stored with own | found
  · have same : y = a := Books.eq_of_key nodup stored member
      (by rw [Account.key, Account.key, Books.transGen_tenant below, own])
    subst same
    exact absurd below (chart.acyclic stored)
  · exact found

-- The levels a move writes: none when the level stays, else the walk's, which names every
-- account below `a`, each at its shifted level.
theorem moveLevels (chart : b.Hierarchy) (nodup : (b.accounts.map Account.key).Nodup)
    {a : Account} (stored : a ∈ b.accounts) (level : Nat) :
    let levels := if level == a.level then []
      else subtreeLevels b a.tenant a.code (b.accounts.length + 1) [(a.code, level)] []
    (∀ w ∈ levels, Shifted b a level (TransGen b.ParentLink · a) w) ∧
      (level ≠ a.level → ∀ y ∈ b.accounts, TransGen b.ParentLink y a → ∃ l, (y.code, l) ∈ levels) := by
  intro levels
  by_cases same : level = a.level
  · have none : levels = [] := by simp [levels, same]
    rw [none]
    exact ⟨by simp, fun differ => absurd same differ⟩
  · have walk : levels =
        subtreeLevels b a.tenant a.code (b.accounts.length + 1) [(a.code, level)] [] := by
      simp [levels, same]
    rw [walk]
    refine ⟨subtreeLevels_shifted chart a level _ _ _ (fun w m => ?_) (by simp),
      fun _ y m below => subtreeLevels_reaches chart nodup stored level m below⟩
    -- the walk starts from `a` itself, at the new level
    rw [List.mem_singleton.mp m]
    exact ⟨a, stored, rfl, rfl, ReflTransGen.refl, Nat.add_comm _ _⟩

-- The move of `a` writing level `w.2` on the account of `a`'s tenant with code `w.1`.
def relevel (a x : Account) (w : String × Nat) : Account :=
  if x.key == accountKey a.tenant w.1 then
    { x with
      level := w.2
      audit := { x.audit with updatedAt := a.audit.updatedAt, updatedBy := a.audit.updatedBy } }
  else x

-- Where the store's move of `moved` with `levels` leaves an account.
def movedTo (moved : Account) (levels : List (String × Nat)) (x : Account) : Account :=
  levels.foldl (relevel moved) (if x.key == moved.key then withChanges x moved else x)

theorem relevel_place (a x : Account) (w : String × Nat) :
    (relevel a x w).tenant = x.tenant ∧ (relevel a x w).code = x.code ∧
      (relevel a x w).parent = x.parent := by
  unfold relevel
  split <;> exact ⟨rfl, rfl, rfl⟩

theorem foldl_relevel_place (a : Account) (levels : List (String × Nat)) (x : Account) :
    (levels.foldl (relevel a) x).tenant = x.tenant ∧ (levels.foldl (relevel a) x).code = x.code ∧
      (levels.foldl (relevel a) x).parent = x.parent := by
  induction levels generalizing x with
  | nil => exact ⟨rfl, rfl, rfl⟩
  | cons w rest ih =>
    obtain ⟨tenant, code, parent⟩ := ih (relevel a x w)
    obtain ⟨tenant', code', parent'⟩ := relevel_place a x w
    exact ⟨tenant.trans tenant', code.trans code', parent.trans parent'⟩

-- Levels written in turn: an account takes the last level written under its key, if any.
theorem foldl_relevel_level (a : Account) (levels : List (String × Nat)) (x : Account) :
    (∃ w ∈ levels, x.key = accountKey a.tenant w.1 ∧ (levels.foldl (relevel a) x).level = w.2) ∨
      (∀ w ∈ levels, x.key ≠ accountKey a.tenant w.1) ∧
        (levels.foldl (relevel a) x).level = x.level := by
  induction levels generalizing x with
  | nil => exact .inr ⟨by simp, rfl⟩
  | cons w rest ih =>
    have key : (relevel a x w).key = x.key := by
      obtain ⟨tenant, code, _⟩ := relevel_place a x w
      rw [Account.key, Account.key, tenant, code]
    rcases ih (relevel a x w) with ⟨v, member, named, level⟩ | ⟨unnamed, level⟩
    · exact .inl ⟨v, List.mem_cons_of_mem _ member, key.symm.trans named, level⟩
    · rw [key] at unnamed
      by_cases named : x.key = accountKey a.tenant w.1
      · exact .inl ⟨w, List.mem_cons_self, named, level.trans (by simp [relevel, named])⟩
      · refine .inr ⟨fun v m => ?_, level.trans (by simp [relevel, named])⟩
        rcases List.mem_cons.mp m with rfl | other
        · exact named
        · exact unnamed v other

theorem movedTo_place (moved : Account) (levels : List (String × Nat)) (x : Account) :
    (movedTo moved levels x).tenant = x.tenant ∧ (movedTo moved levels x).code = x.code := by
  obtain ⟨tenant, code, _⟩ := foldl_relevel_place moved levels
    (if x.key == moved.key then withChanges x moved else x)
  refine ⟨tenant.trans ?_, code.trans ?_⟩ <;> split <;> rfl

theorem foldl_accounts_map {α : Type} (F : Books → α → Books) (g : α → Account → Account)
    (each : ∀ b w, (F b w).accounts = b.accounts.map (g w)) (ws : List α) (b : Books) :
    (ws.foldl F b).accounts = b.accounts.map fun x => ws.foldl (fun x w => g w x) x := by
  induction ws generalizing b with
  | nil => simp
  | cons w rest ih =>
    rw [List.foldl_cons, ih, each, List.map_map]
    rfl

-- A move the store accepts has passed its walk up from the new parent, and leaves every
-- account where `movedTo` says.
theorem storeMove_eq_ok {moved : Account} {levels : List (String × Nat)}
    (stored : storeMove b moved levels = .ok b') :
    checkAncestry b moved.tenant moved.code moved.parent (b.accounts.length + 1) [] moved.parent =
        .ok () ∧
      b'.accounts = b.accounts.map (movedTo moved levels) := by
  unfold storeMove at stored
  obtain ⟨_, _, stored⟩ := Except.bind_eq_ok.mp stored
  obtain ⟨_, walked, stored⟩ := Except.bind_eq_ok.mp stored
  cases stored
  refine ⟨walked, (foldl_accounts_map _ (fun w x => relevel moved x w) (fun b w => ?_) levels _).trans ?_⟩
  · obtain ⟨code, lvl⟩ := w
    rfl
  · rw [Books.modifyAccount_accounts, List.map_map]
    rfl

-- A move of the stored account `a` to the place `moved` gives it, writing `levels` below it,
-- as the store accepts it.
structure Move (b : Books) (a moved : Account) (levels : List (String × Nat)) : Prop where
  stored : a ∈ b.accounts
  tenant : moved.tenant = a.tenant
  code : moved.code = a.code
  -- a root at level zero, or one level below the stored account of the tenant it names
  placed : moved.parent = "" ∧ moved.level = 0 ∨
    ∃ p ∈ b.accounts, p.tenant = a.tenant ∧ p.code = moved.parent ∧ moved.parent ≠ "" ∧
      moved.level = p.level + 1
  -- the new parent is neither `a` nor below it
  outside : ∀ p ∈ b.accounts, p.tenant = a.tenant → p.code = moved.parent →
    ¬ ReflTransGen b.ParentLink p a
  sound : ∀ w ∈ levels, Shifted b a moved.level (TransGen b.ParentLink · a) w
  complete : moved.level ≠ a.level →
    ∀ y ∈ b.accounts, TransGen b.ParentLink y a → ∃ l, (y.code, l) ∈ levels

namespace Move

variable {a moved : Account} {levels : List (String × Nat)} (move : Move b a moved levels)
  (chart : b.Hierarchy) (nodup : (b.accounts.map Account.key).Nodup)

include move

theorem key : moved.key = a.key := by
  rw [Account.key, Account.key, move.tenant, move.code]

-- The moved account takes its new parent and level: no level written names it.
theorem self (chart : b.Hierarchy) (nodup : (b.accounts.map Account.key).Nodup) :
    (movedTo moved levels a).parent = moved.parent ∧ (movedTo moved levels a).level = moved.level := by
  have start : (if a.key == moved.key then withChanges a moved else a) = withChanges a moved := by
    simp [move.key]
  unfold movedTo
  rw [start]
  refine ⟨(foldl_relevel_place moved levels _).2.2, ?_⟩
  rcases foldl_relevel_level moved levels (withChanges a moved) with ⟨w, member, named, _⟩ | ⟨_, level⟩
  · -- a level written under `a`'s key would put `a` below itself
    have below := ((move.sound w member).of_key nodup move.stored (move.tenant ▸ named)).1
    exact absurd below (chart.acyclic move.stored)
  · exact level

-- Every other account keeps its parent; one below the moved account shifts its level with
-- it, and one elsewhere keeps its level.
theorem other (nodup : (b.accounts.map Account.key).Nodup) {x : Account} (member : x ∈ b.accounts)
    (differ : x ≠ a) :
    (movedTo moved levels x).parent = x.parent ∧
      (TransGen b.ParentLink x a ∧
          (movedTo moved levels x).level + a.level = x.level + moved.level ∨
        ¬ TransGen b.ParentLink x a ∧ (movedTo moved levels x).level = x.level) := by
  have start : (if x.key == moved.key then withChanges x moved else x) = x := by
    have apart : x.key ≠ moved.key := fun same =>
      differ (Books.eq_of_key nodup member move.stored (same.trans move.key))
    simp [apart]
  unfold movedTo
  rw [start]
  refine ⟨(foldl_relevel_place moved levels x).2.2, ?_⟩
  rcases foldl_relevel_level moved levels x with ⟨w, listed, named, level⟩ | ⟨unnamed, level⟩
  · -- a level written under `x`'s key was computed for `x`, so `x` lies below `a`
    obtain ⟨below, shifted⟩ := (move.sound w listed).of_key nodup member (move.tenant ▸ named)
    exact .inl ⟨below, by omega⟩
  · by_cases below : TransGen b.ParentLink x a
    · -- below but unnamed: the walk was skipped, as the level did not change
      by_cases kept : moved.level = a.level
      · exact .inl ⟨below, by omega⟩
      · obtain ⟨l, listed⟩ := move.complete kept x member below
        exact absurd (by rw [Account.key, move.tenant, Books.transGen_tenant below]) (unnamed _ listed)
    · exact .inr ⟨below, level⟩

-- An account that is neither the moved one nor below it keeps its level.
theorem still (nodup : (b.accounts.map Account.key).Nodup) {p : Account} (member : p ∈ b.accounts)
    (outsider : ¬ ReflTransGen b.ParentLink p a) : (movedTo moved levels p).level = p.level := by
  have differ : p ≠ a := fun same => outsider (same ▸ ReflTransGen.refl)
  rcases (move.other nodup member differ).2 with ⟨below, _⟩ | ⟨_, level⟩
  · exact absurd below.to_reflTransGen outsider
  · exact level

omit move in
theorem image_link {x p : Account}
    (link : b.ParentLink (movedTo moved levels x) p) (parent : (movedTo moved levels x).parent = x.parent) :
    b.ParentLink x p :=
  (Books.ParentLink.congr (movedTo_place moved levels x).1 parent).mp link

include chart nodup

theorem parented {x : Account} (member : x ∈ b.accounts) (given : (movedTo moved levels x).parent ≠ "") :
    ∃ p, b.ParentLink (movedTo moved levels x) p := by
  by_cases here : x = a
  · subst here
    obtain ⟨parent, _⟩ := move.self chart nodup
    rcases move.placed with ⟨top, _⟩ | ⟨p, stored, tenant, code, _, _⟩
    · exact absurd (parent.trans top) given
    · exact ⟨p, stored, tenant.trans (movedTo_place moved levels x).1.symm, code.trans parent.symm,
        given⟩
  · obtain ⟨parent, _⟩ := move.other nodup member here
    obtain ⟨p, link⟩ := chart.parented x member (parent ▸ given)
    exact ⟨p, (Books.ParentLink.congr (movedTo_place moved levels x).1 parent).mpr link⟩

-- Every link still spans one level. The moved account's parent is outside its subtree, so it
-- kept its level; an account below the moved one has its parent there too, shifted alike;
-- and an account elsewhere has its parent elsewhere.
theorem leveled {x : Account} (member : x ∈ b.accounts) {p : Account}
    (link : b.ParentLink (movedTo moved levels x) p) :
    (movedTo moved levels x).level = (movedTo moved levels p).level + 1 := by
  by_cases here : x = a
  · subst here
    obtain ⟨parent, level⟩ := move.self chart nodup
    rcases move.placed with ⟨top, _⟩ | ⟨q, stored, tenant, code, _, above⟩
    · exact absurd (parent.trans top) link.2.2.2
    · have same : p = q := Books.eq_of_key nodup link.1 stored (by
        rw [Account.key, Account.key, link.2.1, (movedTo_place moved levels x).1, tenant, link.2.2.1,
          parent, code])
      subst same
      rw [level, move.still nodup link.1 (move.outside p link.1 tenant code), above]
  · obtain ⟨parent, shift⟩ := move.other nodup member here
    have before := image_link link parent
    have lower := chart.leveled x member p before
    rcases shift with ⟨below, shifted⟩ | ⟨notBelow, kept⟩
    · obtain ⟨q, first, rest⟩ := TransGen.head'_iff.mp below
      obtain rfl : p = q := Books.ParentLink.unique nodup before first
      rcases reflTransGen_iff_eq_or_transGen.mp rest with rfl | parentBelow
      · rw [(move.self chart nodup).2]
        omega
      · have apart : p ≠ a := fun same => chart.acyclic move.stored (same ▸ parentBelow)
        rcases (move.other nodup link.1 apart).2 with ⟨_, parentShifted⟩ | ⟨parentNot, _⟩
        · omega
        · exact absurd parentBelow parentNot
    · have outsider : ¬ ReflTransGen b.ParentLink p a := fun above =>
        notBelow (TransGen.head' before above)
      rw [kept, move.still nodup link.1 outsider, lower]

theorem rooted {x : Account} (member : x ∈ b.accounts) (top : (movedTo moved levels x).parent = "") :
    (movedTo moved levels x).level = 0 := by
  by_cases here : x = a
  · subst here
    obtain ⟨parent, level⟩ := move.self chart nodup
    rcases move.placed with ⟨_, root⟩ | ⟨_, _, _, _, given, _⟩
    · exact level.trans root
    · exact absurd (parent.symm.trans top) given
  · obtain ⟨parent, shift⟩ := move.other nodup member here
    rcases shift with ⟨below, _⟩ | ⟨_, kept⟩
    · -- below the moved account means having a parent
      obtain ⟨_, first, _⟩ := TransGen.head'_iff.mp below
      exact absurd (parent.symm.trans top) first.2.2.2
    · rw [kept]
      exact chart.rooted x member (parent ▸ top)

theorem hierarchy (accounts : b'.accounts = b.accounts.map (movedTo moved levels)) : b'.Hierarchy :=
  Books.Hierarchy.of_image _ accounts (movedTo_place moved levels) chart.named
    (fun _ member => move.parented chart nodup member) (fun _ member _ => move.leveled chart nodup member)
    fun _ member => move.rooted chart nodup member

end Move

-- The store's move keeps the forest when the moved account's place is a root, or one level
-- below the parent it names, and the levels written are those of the move's walk.
theorem storeMove_hierarchy (chart : b.Hierarchy) (nodup : (b.accounts.map Account.key).Nodup)
    {a moved : Account} (stored : a ∈ b.accounts) (tenant : moved.tenant = a.tenant)
    (code : moved.code = a.code)
    (placed : moved.parent = "" ∧ moved.level = 0 ∨
      ∃ p ∈ b.accounts, p.tenant = a.tenant ∧ p.code = moved.parent ∧ moved.parent ≠ "" ∧
        moved.level = p.level + 1)
    (move : storeMove b moved (if moved.level == a.level then []
      else subtreeLevels b a.tenant a.code (b.accounts.length + 1) [(a.code, moved.level)] []) =
        .ok b') :
    b'.Hierarchy := by
  obtain ⟨walked, accounts⟩ := storeMove_eq_ok move
  rw [tenant, code] at walked
  obtain ⟨sound, complete⟩ := moveLevels chart nodup stored moved.level
  exact Move.hierarchy ⟨stored, tenant, code, placed, checkAncestry_eq_ok chart nodup _ _ _ _ walked,
    sound, complete⟩ chart nodup accounts

-- The level a move computes: zero for a root, else one below the parent found.
theorem reparentLevel_eq_ok {t code target : String} {level : Nat}
    (found : reparentLevel b t code target = .ok level) :
    target = "" ∧ level = 0 ∨
      ∃ p, parentByCode b t target = .ok p ∧ target ≠ "" ∧ level = p.level + 1 := by
  unfold reparentLevel at found
  simp only [bind, Except.bind, throw, throwThe, MonadExceptOf.throw, pure, Except.pure] at found
  repeat' split at found
  all_goals first | (cases found; done) | skip
  -- what is left: a new root, and a parent found that the walk up from it accepts
  all_goals cases found
  · exact .inl ⟨by simpa using ‹target.isEmpty = true›, rfl⟩
  · exact .inr ⟨_, ‹_›, by simpa using ‹¬target.isEmpty = true›, rfl⟩

variable {o : Office} {c : Ctx}

-- Changing an account keeps the forest: details and flags keep its place, and a move is one
-- the store accepts, to a root or one level below the stored parent named.
theorem updateAccount_hierarchy (sound : o.books.Wellformed) (chart : o.books.Hierarchy)
    (code : Ref) (p : AccountPatch) : (o.updateAccount c code p).2.books.Hierarchy := by
  cases changed : (o.updateAccount c code p).1 with
  | error f =>
    rw [updateAccount_error changed]
    exact chart
  | ok a =>
    obtain ⟨books, a0, office, found, tenant, named, change⟩ := updateAccount_stored changed
    obtain ⟨stored, owner, _⟩ := accountByCode_eq_ok found
    rw [office]
    rcases change with ⟨parent, level, changes⟩ | ⟨leveled, move⟩
    · exact chart.storeChanges sound.accountKeys changes stored
        (by simp only [Account.key, tenant, named]) parent level
    · -- a move: the new parent is none, or a stored account of the tenant one level up
      rw [← owner] at leveled move
      refine storeMove_hierarchy chart sound.accountKeys stored tenant named ?_ move
      rcases reparentLevel_eq_ok leveled with root | ⟨q, parentFound, given, above⟩
      · exact .inl root
      · obtain ⟨parentStored, parentTenant, parentCode⟩ := parentByCode_eq_ok parentFound
        exact .inr ⟨q, parentStored, parentTenant, parentCode, given, above⟩

end Office

-- Every call keeps the forest, failing or not.
theorem Books.Hierarchy.perform {o : Office} (sound : o.books.Wellformed) (chart : o.books.Hierarchy)
    (call : Call) : (call.perform o).2.books.Hierarchy := by
  cases onChart : call.onChart
  · obtain ⟨writes, accounts⟩ := Call.perform_rebalances onChart o
    exact chart.rebalanced accounts
  cases call
  case registerAccount c req => exact Office.registerAccount_hierarchy sound chart req
  case updateAccount c code patch => exact Office.updateAccount_hierarchy sound chart code patch
  case deactivateAccount c code => exact Office.deactivateAccount_hierarchy sound chart code
  all_goals cases onChart

theorem Office.run_hierarchy (pageSize : Nat) (calls : List Call) :
    ((Office.start pageSize).run calls).books.Hierarchy :=
  (Office.run_invariant (fun o => o.books.Wellformed ∧ o.books.Hierarchy)
    (fun o call held => ⟨held.1.change (Call.perform_change call o), held.2.perform held.1 call⟩)
    ⟨Office.start_wellformed pageSize, by constructor <;> simp [Office.start]⟩ calls).2

-- Every session leaves the chart of accounts a forest: a named parent is the tenant's account
-- with that code, one level up; roots are at level zero; from every account the parent links
-- reach a root in as many steps as its level; and no account is its own ancestor.
theorem chart_is_a_forest (pageSize : Nat) (calls : List Call) :
    let b := ((Office.start pageSize).run calls).books
    ∀ a ∈ b.accounts,
      (a.parent ≠ "" → ∃ p, b.ParentLink a p) ∧
      (a.parent = "" → a.level = 0) ∧
      (∀ p, b.ParentLink a p → a.level = p.level + 1) ∧
      b.Rooted a a.level ∧
      ¬ Relation.TransGen b.ParentLink a a := by
  intro b a member
  have chart := Office.run_hierarchy pageSize calls
  exact ⟨chart.parented a member, chart.rooted a member, chart.leveled a member,
    chart.rooted_level a.level a member rfl, chart.acyclic member⟩

-- Making a mid-level account a root moves its child up a level with it.
theorem subtree_moved_to_root_is_a_forest :
    let b := ((Office.start 20).run
      [.registerAccount ⟨"T1", "u1", Timestamp.zero⟩ { code := "1000", name := "Assets", type := "ASSET" },
       .registerAccount ⟨"T1", "u1", Timestamp.zero⟩
         { code := "1100", name := "Cash", type := "ASSET", parent := some "1000" },
       .registerAccount ⟨"T1", "u1", Timestamp.zero⟩
         { code := "1110", name := "Petty cash", type := "ASSET", parent := some "1100" },
       .updateAccount ⟨"T1", "u2", Timestamp.zero⟩ "1100" { parent := some "" }]).books
    let x := b.accounts.getLastD default
    x ∈ b.accounts ∧ x.code = "1110" ∧ x.level = 1 ∧ b.Rooted x 1 ∧
      ¬ Relation.TransGen b.ParentLink x x := by
  intro b x
  have member : x ∈ b.accounts := by decide +kernel
  have level : x.level = 1 := by decide +kernel
  obtain ⟨_, _, _, rooted, acyclic⟩ := chart_is_a_forest 20 _ x member
  exact ⟨member, by decide +kernel, level, level ▸ rooted, acyclic⟩

end Ledger
