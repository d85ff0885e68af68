import Ledger.Proofs.Tenants

-- A tenant's calls on its chart of accounts see only its part of the books. Opening, changing and
-- deactivating an account look accounts up under the tenant's keys and store under them, and the
-- walks up and down the hierarchy that a move makes meet only the tenant's accounts. A walk's
-- fuel is the number of accounts in the books, which other tenants change; but every step of a
-- walk meets an account of the tenant not met before, so any fuel above the tenant's own number
-- of accounts gives the same answer.

namespace Ledger

namespace Office

variable (b : Books) (t code target : String)

-- The accounts not yet named in the tenant by a code of a walk.
def unseen (seen : List String) : List Account :=
  b.accounts.filter fun a => seen.all fun p => a.key != accountKey t p

theorem unseen_cons (p : String) (seen : List String) :
    unseen b t (p :: seen) = (unseen b t seen).filter (·.key != accountKey t p) := by
  simp only [unseen, List.filter_filter, List.all_cons]

theorem unseen_length_le (seen : List String) : (unseen b t seen).length ≤ b.accounts.length :=
  List.length_filter_le _ _

-- A walk that goes on to a stored account meets one not yet named.
theorem unseen_shrinks {p : String} {seen : List String} {next : Account}
    (found : b.account? (accountKey t p) = some next) (fresh : seen.contains p = false) :
    (unseen b t (p :: seen)).length < (unseen b t seen).length := by
  obtain ⟨stored, keyed⟩ := Books.account?_some found
  rw [unseen_cons]
  refine List.length_filter_lt_length_iff_exists.mpr ⟨next, ?_, by simp [keyed]⟩
  refine List.mem_filter.mpr ⟨stored, List.all_eq_true.mpr fun q named => ?_⟩
  have other : p ≠ q := fun same => by simp [same, named] at fresh
  simp [keyed, accountKey_inj, other]

theorem climb_fuel : ∀ (f g : Nat) (seen : List String) (cur : Account),
    (unseen b t seen).length < f → (unseen b t seen).length < g →
    climb b t code target f seen cur = climb b t code target g seen cur
  | 0, _, _, _, short, _ => absurd short (Nat.not_lt_zero _)
  | _, 0, _, _, _, short => absurd short (Nat.not_lt_zero _)
  | f + 1, g + 1, seen, cur, enough, enough' => by
    unfold climb
    split_ifs with root mine met
    · rfl
    · rfl
    · rfl
    cases found : b.account? (accountKey t cur.parent) with
    | none => rfl
    | some next =>
      have shrinks := unseen_shrinks b t found (by simpa using met)
      exact climb_fuel f g _ next (by omega) (by omega)

-- The walk reads only the parents of the accounts it meets, all looked up under the
-- tenant's keys, so it walks the tenant's part of the books in the same steps.
theorem climb_part (iso : b.Isolates t) : ∀ (f : Nat) (seen : List String) (cur cur' : Account),
    cur.parent = cur'.parent →
      climb b t code target f seen cur = climb (b.part t) t code target f seen cur'
  | 0, _, _, _, same => by simp [climb, same]
  | f + 1, seen, cur, cur', same => by
    unfold climb
    rw [same]
    split_ifs with root mine met
    · rfl
    · rfl
    · rfl
    have found := iso.account? cur'.parent
    cases stored : b.account? (accountKey t cur'.parent) with
    | none =>
      rw [stored] at found
      simp [← found]
    | some next =>
      rw [stored] at found
      rw [← found]
      exact climb_part iso f _ next next.anonymous rfl

theorem checkAncestry_fuel : ∀ (f g : Nat) (seen : List String) (cur : String),
    (unseen b t seen).length < f → (unseen b t seen).length < g →
    checkAncestry b t code target f seen cur = checkAncestry b t code target g seen cur
  | 0, _, _, _, short, _ => absurd short (Nat.not_lt_zero _)
  | _, 0, _, _, _, short => absurd short (Nat.not_lt_zero _)
  | f + 1, g + 1, seen, cur, enough, enough' => by
    unfold checkAncestry
    split_ifs with root mine met
    · rfl
    · rfl
    · rfl
    cases found : b.account? (accountKey t cur) with
    | none => rfl
    | some next =>
      have shrinks := unseen_shrinks b t found (by simpa using met)
      exact checkAncestry_fuel f g _ next.parent (by omega) (by omega)

theorem checkAncestry_part (iso : b.Isolates t) : ∀ (f : Nat) (seen : List String) (cur : String),
    checkAncestry b t code target f seen cur = checkAncestry (b.part t) t code target f seen cur
  | 0, _, _ => rfl
  | f + 1, seen, cur => by
    unfold checkAncestry
    split_ifs with root mine met
    · rfl
    · rfl
    · rfl
    have found := iso.account? cur
    cases stored : b.account? (accountKey t cur) with
    | none =>
      rw [stored] at found
      simp [← found]
    | some next =>
      rw [stored] at found
      rw [← found]
      exact checkAncestry_part iso f _ next.parent

-- One child met by the breadth-first walk below `code`: queued and levelled unless its code
-- is levelled already or is `code` itself.
def enqueue (code : String) (lvl : Nat) (acc : List (String × Nat) × List (String × Nat))
    (child : Account) : List (String × Nat) × List (String × Nat) :=
  if acc.2.any (·.1 == child.code) || child.code == code then acc
  else (acc.1 ++ [(child.code, lvl + 1)], acc.2 ++ [(child.code, lvl + 1)])

theorem subtreeLevels_cons (f : Nat) (c : String) (lvl : Nat) (queue levels : List (String × Nat)) :
    subtreeLevels b t code (f + 1) ((c, lvl) :: queue) levels =
      subtreeLevels b t code f ((b.accountsOf t (·.parent == c)).foldl (enqueue code lvl) (queue, levels)).1
        ((b.accountsOf t (·.parent == c)).foldl (enqueue code lvl) (queue, levels)).2 := rfl

theorem subtreeLevels_nil (f : Nat) (levels : List (String × Nat)) :
    subtreeLevels b t code f [] levels = levels := by
  cases f <;> rfl

-- The tenant's accounts whose codes no level names yet.
def unleveled (levels : List (String × Nat)) : List Account :=
  b.accounts.filter fun a => a.tenant == t && !levels.any (·.1 == a.code)

theorem unleveled_append (levels : List (String × Nat)) (child : Account) (lvl : Nat) :
    unleveled b t (levels ++ [(child.code, lvl)]) =
      (unleveled b t levels).filter (·.code != child.code) := by
  simp only [unleveled, List.filter_filter, List.any_append, List.any_cons, List.any_nil]
  refine List.filter_congr fun a _ => ?_
  by_cases same : a.code = child.code
  · simp [same]
  · have kept : (a.code != child.code) = true := bne_iff_ne.mpr same
    have other : (child.code == a.code) = false := beq_eq_false_iff_ne.mpr (Ne.symm same)
    simp [kept, other]

-- Each child the walk queues takes one of the tenant's accounts off the unlevelled ones, so
-- the queue and the unlevelled accounts together never grow.
theorem foldl_enqueue_measure (lvl : Nat) (children : List Account)
    (kin : ∀ a ∈ children, a ∈ b.accounts ∧ a.tenant = t) (queue levels : List (String × Nat)) :
    (children.foldl (enqueue code lvl) (queue, levels)).1.length +
        (unleveled b t (children.foldl (enqueue code lvl) (queue, levels)).2).length ≤
      queue.length + (unleveled b t levels).length := by
  induction children generalizing queue levels with
  | nil => simp
  | cons child rest ih =>
    have kin' := fun a member => kin a (List.mem_cons_of_mem child member)
    simp only [List.foldl_cons]
    by_cases skip : (levels.any (·.1 == child.code) || child.code == code) = true
    · rw [enqueue, if_pos skip]
      exact ih kin' queue levels
    · rw [enqueue, if_neg skip]
      dsimp only
      have shrink : (unleveled b t (levels ++ [(child.code, lvl + 1)])).length <
          (unleveled b t levels).length := by
        rw [unleveled_append]
        obtain ⟨stored, tenant⟩ := kin child List.mem_cons_self
        have fresh : levels.any (·.1 == child.code) = false := by
          cases found : levels.any (·.1 == child.code)
          · rfl
          · simp [found] at skip
        exact List.length_filter_lt_length_iff_exists.mpr
          ⟨child, List.mem_filter.mpr ⟨stored, by simp [tenant, fresh]⟩, by simp⟩
      have rest := ih kin' (queue ++ [(child.code, lvl + 1)]) (levels ++ [(child.code, lvl + 1)])
      simp only [List.length_append, List.length_singleton] at rest
      omega

theorem kin_accountsOf (keep : Account → Bool) :
    ∀ a ∈ b.accountsOf t keep, a ∈ b.accounts ∧ a.tenant = t := by
  intro a member
  simp only [Books.accountsOf, Books.byCode, mem_sortBy, List.mem_filter, Bool.and_eq_true,
    beq_iff_eq] at member
  exact ⟨member.1, member.2.1⟩

theorem subtreeLevels_fuel : ∀ (f g : Nat) (queue levels : List (String × Nat)),
    queue.length + (unleveled b t levels).length ≤ f →
    queue.length + (unleveled b t levels).length ≤ g →
    subtreeLevels b t code f queue levels = subtreeLevels b t code g queue levels
  | f, g, [], levels, _, _ => by rw [subtreeLevels_nil, subtreeLevels_nil]
  | 0, _, _ :: _, _, short, _ => absurd short (by simp)
  | _, 0, _ :: _, _, _, short => absurd short (by simp)
  | f + 1, g + 1, (c, lvl) :: queue, levels, enough, enough' => by
    rw [subtreeLevels_cons, subtreeLevels_cons]
    have measure := foldl_enqueue_measure b t code lvl _ (kin_accountsOf b t (·.parent == c)) queue levels
    simp only [List.length_cons] at enough enough'
    exact subtreeLevels_fuel f g _ _ (by omega) (by omega)

theorem enqueue_anonymous (lvl : Nat) (acc : List (String × Nat) × List (String × Nat))
    (child : Account) : enqueue code lvl acc child.anonymous = enqueue code lvl acc child := rfl

-- The walk lists children by code and reads their codes only, so it walks the tenant's part.
theorem subtreeLevels_part : ∀ (f : Nat) (queue levels : List (String × Nat)),
    subtreeLevels b t code f queue levels = subtreeLevels (b.part t) t code f queue levels
  | 0, _, _ => rfl
  | _ + 1, [], _ => rfl
  | f + 1, (c, lvl) :: queue, levels => by
    rw [subtreeLevels_cons, subtreeLevels_cons, Books.accountsOf_part b t fun _ => rfl,
      List.foldl_map]
    simp only [enqueue_anonymous]
    exact subtreeLevels_part f _ _

theorem accountByCode_part (iso : b.Isolates t) (code : Ref) :
    (accountByCode b t code).map Account.anonymous = accountByCode (b.part t) t code := by
  unfold accountByCode
  cases exact : code.exact
  · rfl
  · have found := iso.account? code.text
    simp only [if_true]
    cases stored : b.account? (accountKey t code.text) with
    | none =>
      rw [stored] at found
      simp [← found, Except.map]
    | some a =>
      rw [stored] at found
      rw [← found]
      by_cases mine : a.tenant = t <;> simp [mine, Except.map]

theorem parentByCode_part (iso : b.Isolates t) (code : String) :
    (parentByCode b t code).map Account.anonymous = parentByCode (b.part t) t code := by
  unfold parentByCode
  have found := iso.account? code
  cases stored : b.account? (accountKey t code) with
  | none =>
    rw [stored] at found
    simp [← found, Except.map]
  | some a =>
    rw [stored] at found
    rw [← found]
    by_cases mine : a.tenant = t <;> simp [mine, Except.map]

theorem admitAccount_part (iso : b.Isolates t) {c : Ctx} (own : c.tenant = t) (req : AccountRequest) :
    admitAccount b c req = admitAccount (b.part t) c req := by
  unfold admitAccount
  rw [own]
  simp only [← parentByCode_part b t iso, bind_map_anonymous, Account.anonymous_level]

theorem part_length_le : (b.part t).accounts.length ≤ b.accounts.length := by
  simpa [Books.part] using List.length_filter_le _ _

-- A walk started as a move starts it: with the fuel of the books it walks.
theorem climb_start (iso : b.Isolates t) (a : Account) :
    climb b t code target (b.accounts.length + 1) [a.code] a =
      climb (b.part t) t code target ((b.part t).accounts.length + 1) [a.code] a.anonymous := by
  rw [climb_part b t code target iso _ _ a a.anonymous rfl]
  have bound := unseen_length_le (b.part t) t [a.code]
  exact climb_fuel _ t code target _ _ _ _ (by have := part_length_le b t; omega) (by omega)

theorem checkAncestry_start (iso : b.Isolates t) (cur : String) :
    checkAncestry b t code target (b.accounts.length + 1) [] cur =
      checkAncestry (b.part t) t code target ((b.part t).accounts.length + 1) [] cur := by
  rw [checkAncestry_part b t code target iso]
  have bound := unseen_length_le (b.part t) t []
  exact checkAncestry_fuel _ t code target _ _ _ _ (by have := part_length_le b t; omega) (by omega)

theorem subtreeLevels_start (lvl : Nat) :
    subtreeLevels b t code (b.accounts.length + 1) [(code, lvl)] [] =
      subtreeLevels (b.part t) t code ((b.part t).accounts.length + 1) [(code, lvl)] [] := by
  rw [subtreeLevels_part b t code]
  have bound : (unleveled (b.part t) t []).length ≤ (b.part t).accounts.length :=
    List.length_filter_le _ _
  exact subtreeLevels_fuel _ t code _ _ _ _ (by have := part_length_le b t; simp at this bound ⊢; omega)
    (by simp at bound ⊢; omega)

theorem reparentLevel_part (iso : b.Isolates t) :
    reparentLevel b t code target = reparentLevel (b.part t) t code target := by
  unfold reparentLevel
  simp only [← parentByCode_part b t iso, bind_map_anonymous, Account.anonymous_level,
    Account.anonymous_code, climb_start b t code target iso]

theorem storeChanges_part (iso : b.Isolates t) {a : Account} (own : a.tenant = t) :
    (storeChanges b a).map (·.part t) = storeChanges (b.part t) a := by
  subst own
  have found := iso.account? a.code
  unfold storeChanges
  rw [Account.key, ← found, Option.isNone_map]
  split
  · rfl
  · simp only [Except.map]
    exact congrArg Except.ok (Books.part_modifyAccount b _ _ (fun _ => rfl) fun _ => rfl)

theorem storeChanges_anonymous (a : Account) : storeChanges b a.anonymous = storeChanges b a := rfl

theorem storeMove_anonymous (a : Account) (levels : List (String × Nat)) :
    storeMove b a.anonymous levels = storeMove b a levels := rfl

theorem storeMove_part (iso : b.Isolates t) {a : Account} (own : a.tenant = t)
    (levels : List (String × Nat)) :
    (storeMove b a levels).map (·.part t) = storeMove (b.part t) a levels := by
  subst own
  unfold storeMove
  simp only [iso.account?_isNone, checkAncestry_start b _ _ _ iso, map_bind_eq]
  -- the checks now read the part; what is left is the part of the writes
  congr 1
  funext
  congr 1
  funext
  show pure (Books.part _ _) = (pure _ : Except Fault Books)
  rw [Books.part_foldl _ _ ?_, Books.part_modifyAccount (f := (withChanges · a)) b _ _ (fun _ => rfl)
    fun _ => rfl]
  intro b _
  exact Books.part_modifyAccount b _ _ (fun _ => rfl) fun _ => rfl

end Office

variable {t : String}

-- A computation that stores books and answers with an account agrees with another up to
-- identifiers when the stores agree on the tenant's part and the accounts up to identifiers.
theorem store_agree {s₁ s₂ : Except Fault Books} {a₁ a₂ : Account}
    (stores : s₁.map (·.part t) = s₂.map (·.part t)) (same : a₁.anonymous = a₂.anonymous) :
    (s₁ >>= fun books => pure (a₁, books)).map (fun x => (x.1.anonymous, x.2.part t)) =
      (s₂ >>= fun books => pure (a₂, books)).map (fun x => (x.1.anonymous, x.2.part t)) :=
  bind_agree stores fun _ _ _ _ parts => by simp [Except.map, pure, Except.pure, same, parts]

namespace Books.Alike

open Office

variable {b₁ b₂ : Books} (alike : b₁.Alike t b₂)
include alike

theorem accountByCode (code : Ref) :
    (accountByCode b₁ t code).map Account.anonymous = (accountByCode b₂ t code).map Account.anonymous := by
  rw [accountByCode_part _ _ alike.isolates₁, accountByCode_part _ _ alike.isolates₂, alike.part]

theorem reparentLevel (code target : String) :
    reparentLevel b₁ t code target = reparentLevel b₂ t code target := by
  rw [reparentLevel_part _ _ _ _ alike.isolates₁, reparentLevel_part _ _ _ _ alike.isolates₂,
    alike.part]

theorem subtreeLevels (code : String) (lvl : Nat) :
    subtreeLevels b₁ t code (b₁.accounts.length + 1) [(code, lvl)] [] =
      subtreeLevels b₂ t code (b₂.accounts.length + 1) [(code, lvl)] [] := by
  rw [subtreeLevels_start b₁, subtreeLevels_start b₂, alike.part]

theorem storeChanges {a₁ a₂ : Account} (own : a₁.tenant = t) (same : a₁.anonymous = a₂.anonymous) :
    (storeChanges b₁ a₁).map (·.part t) = (storeChanges b₂ a₂).map (·.part t) := by
  have own' : a₂.tenant = t := by simpa [own] using congrArg Account.tenant same.symm
  rw [storeChanges_part _ _ alike.isolates₁ own, storeChanges_part _ _ alike.isolates₂ own',
    alike.part, ← storeChanges_anonymous, same, storeChanges_anonymous]

theorem storeMove {a₁ a₂ : Account} (own : a₁.tenant = t) (same : a₁.anonymous = a₂.anonymous)
    (levels : List (String × Nat)) :
    (storeMove b₁ a₁ levels).map (·.part t) = (storeMove b₂ a₂ levels).map (·.part t) := by
  have own' : a₂.tenant = t := by simpa [own] using congrArg Account.tenant same.symm
  rw [storeMove_part _ _ alike.isolates₁ own, storeMove_part _ _ alike.isolates₂ own',
    alike.part, ← storeMove_anonymous, same, storeMove_anonymous]

end Books.Alike

namespace Office

theorem updateAccount_view {o₁ o₂ : Office} (alike : o₁.books.Alike t o₂.books) {c : Ctx}
    (own : c.tenant = t) (code : Ref) (p : AccountPatch) :
    (o₁.updateAccount c code p).view t Account.anonymous =
      (o₂.updateAccount c code p).view t Account.anonymous := by
  unfold updateAccount
  extract_lets b₁ jp₁ result₁ b₂ jp₂ result₂
  suffices same : result₁.map (fun x => (x.1.anonymous, x.2.part t)) =
      result₂.map (fun x => (x.1.anonymous, x.2.part t)) by
    clear_value result₁ result₂
    cases result₁ <;> cases result₂ <;> simp_all [Except.map, Outcome.view, alike.part]
  simp only [result₁, result₂, jp₁, jp₂, b₁, b₂, own]
  cases p.violation with
  | some v => rfl
  | none =>
    refine bind_agree (alike.accountByCode code) fun a₁ a₂ _ found same => ?_
    have mine : a₂.tenant = t := (accountByCode_eq_ok found).2.1
    -- the two accounts differ in their identifiers only
    obtain ⟨i, rfl⟩ : ∃ i, a₁ = { a₂ with id := i } := ⟨a₁.id, Account.eq_of_anonymous same⟩
    dsimp only
    cases p.parent with
    | none => exact store_agree (alike.storeChanges mine rfl) rfl
    | some target =>
      dsimp only
      by_cases kept : (target == a₂.parent) = true
      · rw [if_pos kept, if_pos kept]
        exact store_agree (alike.storeChanges mine rfl) rfl
      · rw [if_neg kept, if_neg kept]
        refine bind_agree (g := id) (congrArg _ (alike.reparentLevel _ _)) fun l₁ l₂ _ _ level => ?_
        subst level
        rw [alike.subtreeLevels]
        refine store_agree (alike.storeMove ?_ rfl _) rfl
        exact mine

theorem deactivateAccount_view {o₁ o₂ : Office} (alike : o₁.books.Alike t o₂.books) {c : Ctx}
    (own : c.tenant = t) (code : Ref) :
    (o₁.deactivateAccount c code).view t id = (o₂.deactivateAccount c code).view t id := by
  unfold deactivateAccount
  rw [own]
  cases found₁ : accountByCode o₁.books t code with
  | error e =>
    rw [eq_error_of_map (alike.accountByCode code) found₁]
    simp [Outcome.view, Except.map, alike.part]
  | ok a₁ =>
    obtain ⟨a₂, found₂, same⟩ := eq_ok_of_map (alike.accountByCode code) found₁
    have mine : a₂.tenant = t := (accountByCode_eq_ok found₂).2.1
    obtain ⟨i, rfl⟩ : ∃ i, a₁ = { a₂ with id := i } := ⟨a₁.id, Account.eq_of_anonymous same⟩
    rw [found₂]
    dsimp only
    by_cases inactive : (!a₂.active) = true
    · simp [inactive, Outcome.view, Except.map, alike.part]
    · simp only [inactive, if_false, Bool.false_eq_true]
      set x₁ : Account := { a₂ with id := i, active := false, audit := a₂.audit.touch c.user c.now }
      set x₂ : Account := { a₂ with active := false, audit := a₂.audit.touch c.user c.now }
      have stores : (storeChanges o₁.books x₁).map (·.part t) =
          (storeChanges o₂.books x₂).map (·.part t) := alike.storeChanges mine rfl
      cases stored₁ : storeChanges o₁.books x₁ with
      | error e =>
        rw [eq_error_of_map stores stored₁]
        simp [Outcome.view, Except.map, alike.part]
      | ok books₁ =>
        obtain ⟨books₂, stored₂, parts⟩ := eq_ok_of_map stores stored₁
        rw [stored₂]
        simp [Outcome.view, Except.map, parts]

theorem registerAccount_view {o₁ o₂ : Office} (alike : o₁.books.Alike t o₂.books) {c : Ctx}
    (own : c.tenant = t) (fresh₁ : o₁.books.accountById? (o₁.ids (o₁.issued + 1)) = none)
    (fresh₂ : o₂.books.accountById? (o₂.ids (o₂.issued + 1)) = none) (req : AccountRequest) :
    (o₁.registerAccount c req).view t Account.anonymous =
      (o₂.registerAccount c req).view t Account.anonymous := by
  unfold registerAccount
  have admitted := (admitAccount_part _ _ alike.isolates₁ own req).trans
    ((congrArg (admitAccount · c req) alike.part).trans
      (admitAccount_part _ _ alike.isolates₂ own req).symm)
  rw [admitted]
  cases admitAccount o₂.books c req with
  | error e => simp [Outcome.view, Except.map, alike.part]
  | ok r =>
    obtain ⟨type, side, parent, level⟩ := r
    simp only [freshId]
    rw [Books.addAccount_of_fresh fresh₁, Books.addAccount_of_fresh fresh₂]
    simp only [Account.key, own, alike.account?_isSome req.code]
    by_cases taken : (o₂.books.account? (accountKey t req.code)).isSome = true
    · simp [taken, Outcome.view, Except.map, alike.part]
    · simp only [taken, if_false, Bool.false_eq_true, Outcome.view, Except.map]
      rw [Books.part_addAccount_own _ t (by rfl), Books.part_addAccount_own _ t (by rfl), alike.part]
      -- the two accounts differ in their identifiers only
      simp only [Account.anonymous]

end Office

end Ledger
