import Ledger.Proofs.Identifiers

-- The chart of accounts is a forest. Every account has a code; one that names a parent has it
-- among its tenant's accounts, one level below it, and a root sits at level zero. Levels fall by
-- one along every parent link, so following parent links from an account reaches a root in as
-- many steps as its level, and no account is its own ancestor. Opening an account under a
-- stored parent, and every change that keeps the accounts' tenants, codes, parents and levels,
-- keep the forest.

namespace Ledger

namespace Books

-- `p` is `a`'s parent: the account of `a`'s tenant with the code `a` names as its parent.
def ParentLink (b : Books) (a p : Account) : Prop :=
  p ∈ b.accounts ∧ p.tenant = a.tenant ∧ p.code = a.parent ∧ a.parent ≠ ""

-- Following parent links from an account reaches a root in `n` steps.
inductive Rooted (b : Books) : Account → Nat → Prop
  | root {a : Account} (top : a.parent = "") : Rooted b a 0
  | up {a p : Account} {n : Nat} (link : b.ParentLink a p) (rest : Rooted b p n) : Rooted b a (n + 1)

-- The chart as a forest: codes are given, named parents exist in the tenant one level up, and
-- roots are at level zero.
structure Hierarchy (b : Books) : Prop where
  named : ∀ a ∈ b.accounts, a.code ≠ ""
  parented : ∀ a ∈ b.accounts, a.parent ≠ "" → ∃ p, b.ParentLink a p
  leveled : ∀ a ∈ b.accounts, ∀ p, b.ParentLink a p → a.level = p.level + 1
  rooted : ∀ a ∈ b.accounts, a.parent = "" → a.level = 0

theorem ParentLink.congr {b : Books} {a a' p : Account} (tenant : a'.tenant = a.tenant)
    (parent : a'.parent = a.parent) : b.ParentLink a' p ↔ b.ParentLink a p := by
  unfold ParentLink
  rw [tenant, parent]

-- The store keys accounts by tenant and code, so two stored accounts under one key are one.
theorem eq_of_key {b : Books} (nodup : (b.accounts.map Account.key).Nodup) {x y : Account}
    (stored : x ∈ b.accounts) (stored' : y ∈ b.accounts) (same : x.key = y.key) : x = y := by
  have found := (account?_eq_some nodup).mpr ⟨stored, rfl⟩
  rw [same, (account?_eq_some nodup).mpr ⟨stored', rfl⟩] at found
  exact (Option.some.inj found).symm

theorem ParentLink.unique {b : Books} (nodup : (b.accounts.map Account.key).Nodup) {a p q : Account}
    (link : b.ParentLink a p) (link' : b.ParentLink a q) : p = q := by
  refine eq_of_key nodup link.1 link'.1 ?_
  simp only [Account.key, link.2.1, link.2.2.1, link'.2.1, link'.2.2.1]

namespace Hierarchy

variable {b b' : Books}

-- An account's level counts the parent links to its root.
theorem rooted_level (chart : b.Hierarchy) : ∀ n, ∀ a ∈ b.accounts, a.level = n → b.Rooted a n
  | 0, a, member, level => by
    by_cases top : a.parent = ""
    · exact .root top
    · obtain ⟨p, link⟩ := chart.parented a member top
      have := chart.leveled a member p link
      omega
  | n + 1, a, member, level => by
    have notTop : a.parent ≠ "" := fun top => by
      have := chart.rooted a member top
      omega
    obtain ⟨p, link⟩ := chart.parented a member notTop
    have lower := chart.leveled a member p link
    exact .up link (rooted_level chart n p link.1 (by omega))

-- Every ancestor sits strictly above: its level is lower.
theorem ancestor_level (chart : b.Hierarchy) {a c : Account}
    (above : Relation.TransGen b.ParentLink a c) (member : a ∈ b.accounts) :
    c ∈ b.accounts ∧ c.level < a.level := by
  induction above with
  | single link =>
    have := chart.leveled a member _ link
    exact ⟨link.1, by omega⟩
  | tail _ link ih =>
    obtain ⟨mid, lower⟩ := ih
    have := chart.leveled _ mid _ link
    exact ⟨link.1, by omega⟩

theorem acyclic (chart : b.Hierarchy) {a : Account} (member : a ∈ b.accounts) :
    ¬ Relation.TransGen b.ParentLink a a := fun loop =>
  Nat.lt_irrefl _ (chart.ancestor_level loop member).2

-- The forest after a change that keeps every account's tenant and code, checked on the images:
-- the links of an image are the images of the links.
theorem of_image (g : Account → Account) (accounts : b'.accounts = b.accounts.map g)
    (keeps : ∀ x, (g x).tenant = x.tenant ∧ (g x).code = x.code)
    (named : ∀ x ∈ b.accounts, x.code ≠ "")
    (parented : ∀ x ∈ b.accounts, (g x).parent ≠ "" → ∃ p, b.ParentLink (g x) p)
    (leveled : ∀ x ∈ b.accounts, ∀ p, b.ParentLink (g x) p → (g x).level = (g p).level + 1)
    (rooted : ∀ x ∈ b.accounts, (g x).parent = "" → (g x).level = 0) : b'.Hierarchy := by
  have image : ∀ x p, b.ParentLink x p → b'.ParentLink x (g p) := by
    rintro x p ⟨stored, tenant, code, given⟩
    exact ⟨accounts ▸ List.mem_map_of_mem stored, (keeps p).1.trans tenant,
      (keeps p).2.trans code, given⟩
  have preimage : ∀ x p', b'.ParentLink x p' → ∃ p, p' = g p ∧ b.ParentLink x p := by
    rintro x p' ⟨stored, tenant, code, given⟩
    rw [accounts] at stored
    obtain ⟨p, member, rfl⟩ := List.mem_map.mp stored
    exact ⟨p, rfl, member, (keeps p).1.symm.trans tenant, (keeps p).2.symm.trans code, given⟩
  refine ⟨fun a' member => ?_, fun a' member top => ?_, fun a' member p' link => ?_,
    fun a' member top => ?_⟩
  all_goals rw [accounts] at member; obtain ⟨x, stored, rfl⟩ := List.mem_map.mp member
  · rw [(keeps x).2]
    exact named x stored
  · obtain ⟨p, link⟩ := parented x stored top
    exact ⟨g p, image _ p link⟩
  · obtain ⟨p, rfl, before⟩ := preimage _ p' link
    exact leveled x stored p before
  · exact rooted x stored top

-- A change that keeps every stored account's parent and level keeps the forest.
theorem map (chart : b.Hierarchy) (g : Account → Account) (accounts : b'.accounts = b.accounts.map g)
    (keeps : ∀ x, (g x).tenant = x.tenant ∧ (g x).code = x.code)
    (placed : ∀ x ∈ b.accounts, (g x).parent = x.parent ∧ (g x).level = x.level) : b'.Hierarchy := by
  refine of_image g accounts keeps chart.named (fun x member given => ?_)
    (fun x member p link => ?_) (fun x member top => ?_)
  all_goals obtain ⟨parent, level⟩ := placed x member
  · obtain ⟨p, link⟩ := chart.parented x member (parent ▸ given)
    exact ⟨p, (ParentLink.congr (keeps x).1 parent).mpr link⟩
  · rw [level, (placed p link.1).2]
    exact chart.leveled x member p ((ParentLink.congr (keeps x).1 parent).mp link)
  · rw [level]
    exact chart.rooted x member (parent ▸ top)

theorem congr (chart : b.Hierarchy) (same : b'.accounts = b.accounts) : b'.Hierarchy :=
  chart.map id (by rw [same, List.map_id]) (fun _ => ⟨rfl, rfl⟩) fun _ _ => ⟨rfl, rfl⟩

-- Opening an account: its code is free in the whole store, so no stored account, nor the
-- new one, names it as a parent; the parent it names is stored, one level up.
theorem opened (chart : b.Hierarchy) {a : Account} (free : b.account? a.key = none)
    (named : a.code ≠ "") (rooted : a.parent = "" → a.level = 0)
    (placed : a.parent ≠ "" → ∃ p, b.ParentLink a p ∧ a.level = p.level + 1)
    (nodup : (b.accounts.map Account.key).Nodup) :
    ({ b with accounts := b.accounts ++ [a] } : Books).Hierarchy := by
  have fresh := Books.account?_eq_none.mp free
  have older : ∀ x, (x.parent ≠ "" → ∃ q, b.ParentLink x q) → ∀ p,
      ({ b with accounts := b.accounts ++ [a] } : Books).ParentLink x p → b.ParentLink x p := by
    rintro x linked p ⟨stored, tenant, code, given⟩
    rcases List.mem_append.mp stored with old | new
    · exact ⟨old, tenant, code, given⟩
    · obtain rfl := List.mem_singleton.mp new
      obtain ⟨q, stored', tenant', code', _⟩ := linked given
      have shared : q.key = p.key := by simp only [Account.key, tenant, tenant', code, code']
      exact absurd shared (fresh q stored')
  have grown : ∀ x p, b.ParentLink x p →
      ({ b with accounts := b.accounts ++ [a] } : Books).ParentLink x p :=
    fun _ _ link => ⟨List.mem_append_left _ link.1, link.2⟩
  have own : a.parent ≠ "" → ∃ q, b.ParentLink a q := fun given =>
    (placed given).imp fun _ link => link.1
  refine ⟨fun x member => ?_, fun x member given => ?_, fun x member p link => ?_,
    fun x member top => ?_⟩
  all_goals rcases List.mem_append.mp member with old | new
  all_goals try obtain rfl := List.mem_singleton.mp new
  · exact chart.named x old
  · exact named
  · exact (chart.parented x old given).imp fun p => grown x p
  · exact (own given).imp fun p => grown x p
  · exact chart.leveled x old p (older x (chart.parented x old) p link)
  · obtain ⟨q, link', level⟩ := placed link.2.2.2
    rw [level, ParentLink.unique nodup link' (older x own p link)]
  · exact chart.rooted x old top
  · exact rooted top

-- Storing changed details of a stored account that keep its parent and level.
theorem storeChanges (chart : b.Hierarchy) (nodup : (b.accounts.map Account.key).Nodup)
    {a a0 : Account} (stored : Office.storeChanges b a = .ok b') (current : a0 ∈ b.accounts)
    (key : a.key = a0.key) (parent : a.parent = a0.parent) (level : a.level = a0.level) :
    b'.Hierarchy := by
  unfold Office.storeChanges at stored
  split at stored
  · cases stored
  · cases stored
    refine chart.map _ (Books.modifyAccount_accounts _ _) (fun x => by split <;> exact ⟨rfl, rfl⟩)
      fun x member => ?_
    by_cases same : x.key = a.key
    · obtain rfl := eq_of_key nodup member current (same.trans key)
      simp [same, Office.withChanges, parent, level]
    · simp [same]

end Hierarchy

end Books

theorem AccountRequest.code_given {req : AccountRequest} (valid : req.violation = none) :
    req.code ≠ "" := by
  simp [AccountRequest.violation, AccountRequest.violations, allViolations, AccountRequest.fields,
    Field.broken, Field.isEmpty] at valid
  intro empty
  simp [empty, Rule.holds] at valid

@[simp] theorem writeBalance_parent (writes : List (String × Decimal)) (user : String)
    (now : Timestamp) (a : Account) : (writeBalance writes user now a).parent = a.parent := by
  unfold writeBalance; split <;> rfl

@[simp] theorem writeBalance_level (writes : List (String × Decimal)) (user : String)
    (now : Timestamp) (a : Account) : (writeBalance writes user now a).level = a.level := by
  unfold writeBalance; split <;> rfl

namespace Office

variable {o : Office} {c : Ctx}

theorem parentByCode_eq_ok {b : Books} {tenant code : String} {p : Account}
    (found : parentByCode b tenant code = .ok p) :
    p ∈ b.accounts ∧ p.tenant = tenant ∧ p.code = code := by
  unfold parentByCode at found
  split at found
  · cases found
  · rename_i looked
    split at found
    · cases found
    · rename_i same
      cases found
      obtain ⟨stored, keyed⟩ := Books.account?_some looked
      have tenant : p.tenant = tenant := by simpa using same
      rw [Account.key, tenant] at keyed
      exact ⟨stored, tenant, accountKey_inj.mp keyed⟩

-- An admitted account is a root at level zero, or sits one level below the parent found.
theorem admitAccount_eq_ok {b : Books} {req : AccountRequest} {type : AccountType} {side : Side}
    {parent : String} {level : Nat} (admitted : admitAccount b c req = .ok (type, side, parent, level)) :
    req.violation = none ∧ (parent = "" ∧ level = 0 ∨
      parent ≠ "" ∧ ∃ p, parentByCode b c.tenant parent = .ok p ∧ level = p.level + 1) := by
  unfold admitAccount at admitted
  simp only [bind, Except.bind, throw, throwThe, MonadExceptOf.throw, pure, Except.pure] at admitted
  repeat' split at admitted
  all_goals first | (cases admitted; done) | skip
  -- what is left are the admitted requests: a root, or a child of the parent found
  all_goals
    simp only [Except.ok.injEq, Prod.mk.injEq] at admitted
    obtain ⟨-, -, rfl, rfl⟩ := admitted
    refine ⟨Option.eq_none_iff_forall_ne_some.mpr ‹∀ v, _ → False›, ?_⟩
  all_goals first
    | exact .inl ⟨rfl, rfl⟩
    | exact .inr ⟨fun empty => by simp_all, _, ‹_›, rfl⟩

theorem registerAccount_placed {req : AccountRequest} {a : Account}
    (opened : (o.registerAccount c req).1 = .ok a) :
    a.code ≠ "" ∧ (a.parent = "" → a.level = 0) ∧
      (a.parent ≠ "" → ∃ p, o.books.ParentLink a p ∧ a.level = p.level + 1) := by
  unfold registerAccount at opened
  simp only [freshId] at opened
  split at opened
  · cases opened
  · rename_i type side parent level admitted
    split at opened
    · cases opened
    · cases opened
      obtain ⟨valid, root⟩ := admitAccount_eq_ok admitted
      refine ⟨AccountRequest.code_given valid, fun top => ?_, fun given => ?_⟩
      · rcases root with ⟨_, level⟩ | ⟨given, _⟩
        · exact level
        · exact absurd top given
      · rcases root with ⟨top, _⟩ | ⟨_, p, found, level⟩
        · exact absurd top given
        · obtain ⟨stored, tenant, code⟩ := parentByCode_eq_ok found
          exact ⟨p, ⟨stored, tenant, code, given⟩, level⟩

theorem registerAccount_hierarchy (sound : o.books.Wellformed) (chart : o.books.Hierarchy)
    (req : AccountRequest) : (o.registerAccount c req).2.books.Hierarchy := by
  cases opened : (o.registerAccount c req).1 with
  | error f => exact chart.congr (by rw [(registerAccount_error opened).1])
  | ok a =>
    obtain ⟨free, _, _, _, _, _, books, _⟩ := registerAccount_ok opened
    obtain ⟨named, rooted, placed⟩ := registerAccount_placed opened
    rw [books]
    exact (chart.opened free named rooted placed sound.accountKeys).congr rfl

theorem deactivateAccount_hierarchy (sound : o.books.Wellformed) (chart : o.books.Hierarchy)
    (code : Ref) : (o.deactivateAccount c code).2.books.Hierarchy := by
  unfold deactivateAccount
  cases found : accountByCode o.books c.tenant code with
  | error f => exact chart
  | ok a =>
    dsimp only
    split
    · exact chart
    · cases stored : storeChanges o.books { a with active := false, audit := a.audit.touch c.user c.now } with
      | error f => exact chart
      | ok books =>
        exact chart.storeChanges sound.accountKeys stored (accountByCode_eq_ok found).1 rfl rfl rfl

end Office

-- Whether a call works on the chart of accounts rather than on the journal.
def Call.onChart : Call → Bool
  | .registerAccount .. | .updateAccount .. | .deactivateAccount .. => true
  | _ => false

theorem writeBalance_nil (user : String) (now : Timestamp) (a : Account) :
    writeBalance [] user now a = a := rfl

-- The calls on the journal leave every account where it was in the chart: at most they write
-- balances.
theorem Call.perform_rebalances {call : Call} (journal : call.onChart = false) (o : Office) :
    ∃ writes, (call.perform o).2.books.accounts =
      o.books.accounts.map (writeBalance writes call.ctx.user call.ctx.now) := by
  have kept : ∀ {b : Books}, b.accounts = o.books.accounts → ∃ writes,
      b.accounts = o.books.accounts.map (writeBalance writes call.ctx.user call.ctx.now) :=
    fun same => ⟨[], by rw [same, List.map_id'' (writeBalance_nil _ _)]⟩
  cases call with
  | registerAccount | updateAccount | deactivateAccount => cases journal
  | createDraft c req =>
    simp only [Call.perform, Call.settle_snd]
    cases drafted : (o.createDraft c req).1 with
    | error f =>
      rcases Office.createDraft_error drafted with same | ⟨_, _, same⟩
      · exact kept (by rw [same])
      · exact kept (by rw [same]; simp)
    | ok e =>
      obtain ⟨_, _, _, _, _, _, _, books, _⟩ := Office.createDraft_ok drafted
      exact kept (by rw [books]; simp)
  | updateDraft c number req =>
    simp only [Call.perform, Call.settle_snd]
    cases updated : (o.updateDraft c number req).1 with
    | error f => exact kept (by rw [Office.updateDraft_error updated])
    | ok e =>
      obtain ⟨_, _, _, _, _, _, _, _, same⟩ := Office.updateDraft_ok updated
      exact kept (by rw [same, Books.replaceEntry_accounts])
  | discardDraft c number =>
    simp only [Call.perform]
    cases done : (o.discardDraft c number).1 with
    | error f => exact kept (by rw [Office.discardDraft_error done])
    | ok u =>
      obtain ⟨_, _, _, _, same⟩ := Office.discardDraft_ok done
      exact kept (by rw [same, Books.removeEntry_accounts])
  | postEntry c number =>
    simp only [Call.perform, Call.settle_snd]
    cases posted : (o.postEntry c number).1 with
    | error f => exact kept (by rw [Office.postEntry_error posted])
    | ok e =>
      obtain ⟨_, _, _, _, writes, _, books⟩ := Office.postEntry_ok posted
      exact ⟨writes, by rw [books, Books.replaceEntry_accounts, Books.applyWrites_accounts]; rfl⟩
  | reverseEntry c number =>
    simp only [Call.perform, Call.settle_snd]
    cases reversed : (o.reverseEntry c number).1 with
    | error f => exact kept (by rw [(Office.reverseEntry_error reversed).1]; simp)
    | ok pair =>
      obtain ⟨_, _, _, _, _, _, writes, _, _, stored, _, books⟩ := Office.reverseEntry_ok reversed
      refine ⟨writes, ?_⟩
      rw [books, Books.replaceEntry_accounts, Books.addEntry_accounts stored,
        Books.applyWrites_accounts]
      rfl

theorem Books.Hierarchy.rebalanced {b b' : Books} (chart : b.Hierarchy)
    {writes : List (String × Decimal)} {user : String} {now : Timestamp}
    (accounts : b'.accounts = b.accounts.map (writeBalance writes user now)) : b'.Hierarchy :=
  chart.map _ accounts (fun _ => ⟨by simp, by simp⟩) fun _ _ => ⟨by simp, by simp⟩

end Ledger
