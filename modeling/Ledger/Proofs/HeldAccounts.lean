import Ledger.Proofs.Refusals
import Ledger.Proofs.TrialBalance

-- Taking the accounts of a posting. The codes of the lines are taken in ascending order, each
-- once, and the first code that does not serve the tenant stops the posting; so a posting is
-- refused for the least code that does not serve, wherever its lines stand, and it goes on
-- exactly when every code serves. Applying the lines then names each line after the account
-- taken for its code.

namespace Ledger

namespace Books

-- The account stored under the tenant's key for the code is the tenant's own and active, so a
-- posting may move it.
def Serves (b : Books) (tenant code : String) : Prop :=
  ∃ a, b.account? (accountKey tenant code) = some a ∧ a.tenant = tenant ∧ a.active = true

-- The refusal a code draws: no account under its key, an account of another tenant there, or
-- the tenant's own account, inactive.
def Refuses (b : Books) (tenant code : String) (f : Fault) : Prop :=
  b.account? (accountKey tenant code) = none ∧ f = .unknownLineAccount code ∨
    (∃ a, b.account? (accountKey tenant code) = some a ∧ a.tenant ≠ tenant) ∧
      f = .foreignAccount code ∨
    (∃ a, b.account? (accountKey tenant code) = some a ∧ a.tenant = tenant ∧ a.active = false) ∧
      f = .inactive code

-- The name of the account stored under the tenant's key for the code, empty when none is.
def accountName (b : Books) (tenant code : String) : String :=
  ((b.account? (accountKey tenant code)).map (·.name)).getD ""

-- Taking one code, as a posting does.
def takeAccount (b : Books) (tenant code : String) : Except Fault (String × Account) :=
  match b.account? (accountKey tenant code) with
  | none => .error (.unknownLineAccount code)
  | some a =>
    if a.tenant != tenant then .error (.foreignAccount code)
    else if !a.active then .error (.inactive code)
    else .ok (code, a)

-- The codes a posting takes, in the order it takes them: ascending, each once.
def takenOrder (codes : List String) : List String :=
  (sortBy (fun x y => !decide (y < x)) codes).eraseDups

theorem holdAccounts_eq_mapM (b : Books) (tenant : String) (codes : List String) :
    b.holdAccounts tenant codes = (takenOrder codes).mapM (b.takeAccount tenant) := rfl

variable {b : Books} {tenant code : String} {f : Fault}

theorem takeAccount_eq_error : b.takeAccount tenant code = .error f ↔ b.Refuses tenant code f := by
  unfold takeAccount Refuses
  cases found : b.account? (accountKey tenant code) with
  | none => simpa using eq_comm
  | some a =>
    by_cases own : a.tenant = tenant <;> by_cases live : a.active = true <;> simp [own, live] <;>
      exact eq_comm

theorem takeAccount_isOk : (∃ v, b.takeAccount tenant code = .ok v) ↔ b.Serves tenant code := by
  unfold takeAccount Serves
  cases found : b.account? (accountKey tenant code) with
  | none => simp
  | some a =>
    by_cases own : a.tenant = tenant <;> by_cases live : a.active = true <;> simp [own, live]

-- A code draws one refusal at most, and only when it does not serve.
theorem Refuses.unique {f' : Fault} (first : b.Refuses tenant code f) (second : b.Refuses tenant code f') :
    f = f' := by
  have left := takeAccount_eq_error.mpr first
  rw [takeAccount_eq_error.mpr second] at left
  exact (Except.error.inj left).symm

theorem Refuses.not_serves (refused : b.Refuses tenant code f) : ¬ b.Serves tenant code := by
  intro serves
  obtain ⟨v, taken⟩ := takeAccount_isOk.mpr serves
  rw [takeAccount_eq_error.mpr refused] at taken
  cases taken

end Books

section TakenOrder

variable {α β ε : Type}

theorem pairwise_eraseDups [BEq α] [LawfulBEq α] {R : α → α → Prop} :
    ∀ {l : List α}, l.Pairwise R → l.eraseDups.Pairwise R
  | [], _ => by simp
  | a :: rest, sorted => by
    rw [List.eraseDups_cons]
    obtain ⟨first, later⟩ := List.pairwise_cons.mp sorted
    refine List.pairwise_cons.mpr ⟨fun x member => ?_, pairwise_eraseDups (later.filter _)⟩
    exact first x (List.mem_filter.mp (List.mem_eraseDups.mp member)).1
termination_by l => l.length
decreasing_by exact Nat.lt_succ_of_le (List.length_filter_le _ _)

@[simp] theorem mem_takenOrder {codes : List String} {code : String} :
    code ∈ Books.takenOrder codes ↔ code ∈ codes := by
  simp [Books.takenOrder, List.mem_eraseDups]

theorem takenOrder_sorted (codes : List String) : (Books.takenOrder codes).Pairwise (· ≤ ·) := by
  have sorted := sortBy_pairwise (fun x y : String => !decide (y < x))
    (fun x y z first second => byCode_le_iff.mpr ((byCode_le_iff.mp first).trans (byCode_le_iff.mp second)))
    (fun x y => by rw [byCode_le_iff, byCode_le_iff]; exact le_total x y) codes
  exact pairwise_eraseDups (sorted.imp byCode_le_iff.mp)

-- A traversal that fails fails at its first failing member: every member before it passes.
theorem mapM_eq_error_split {l : List α} {g : α → Except ε β} {e : ε} (refused : l.mapM g = .error e) :
    ∃ pre x post, l = pre ++ x :: post ∧ (∀ y ∈ pre, ∃ v, g y = .ok v) ∧ g x = .error e := by
  induction l with
  | nil => cases refused
  | cons x rest ih =>
    rw [List.mapM_cons] at refused
    cases gx : g x with
    | error e' =>
      simp only [gx, bind, Except.bind] at refused
      exact ⟨[], x, rest, rfl, by simp, by rw [gx, Except.error.inj refused]⟩
    | ok v =>
      cases grest : rest.mapM g with
      | error e' =>
        simp only [gx, grest, bind, Except.bind] at refused
        obtain ⟨pre, y, post, split, passed, gy⟩ := ih (grest.trans refused)
        refine ⟨x :: pre, y, post, by rw [split]; rfl, fun z member => ?_, gy⟩
        rcases List.mem_cons.mp member with rfl | earlier
        · exact ⟨v, gx⟩
        · exact passed z earlier
      | ok ys => simp [gx, grest, bind, Except.bind, pure, Except.pure] at refused

theorem mapM_isOk_of_forall {l : List α} {g : α → Except ε β} (passes : ∀ x ∈ l, ∃ v, g x = .ok v) :
    ∃ r, l.mapM g = .ok r := by
  induction l with
  | nil => exact ⟨[], rfl⟩
  | cons x rest ih =>
    obtain ⟨v, gx⟩ := passes x List.mem_cons_self
    obtain ⟨r, grest⟩ := ih fun y member => passes y (List.mem_cons_of_mem x member)
    exact ⟨v :: r, by simp [List.mapM_cons, gx, grest, bind, Except.bind, pure, Except.pure]⟩

end TakenOrder

namespace Books

variable {b : Books} {tenant : String} {codes : List String} {f : Fault}

-- A posting is refused, taking its accounts, for the least of its codes that does not serve,
-- with that code's refusal.
theorem holdAccounts_refused_least (refused : b.holdAccounts tenant codes = .error f) :
    ∃ code ∈ codes, b.Refuses tenant code f ∧
      ∀ code' ∈ codes, ¬ b.Serves tenant code' → code ≤ code' := by
  rw [holdAccounts_eq_mapM] at refused
  obtain ⟨pre, code, post, split, passed, stopped⟩ := mapM_eq_error_split refused
  have member : code ∈ takenOrder codes := by rw [split]; simp
  refine ⟨code, mem_takenOrder.mp member, takeAccount_eq_error.mp stopped, fun code' other unserved => ?_⟩
  -- every code before the stopping one passed, so an unserved code lies at or after it, and
  -- the codes are taken in ascending order
  have later : code' ∈ code :: post := by
    have listed : code' ∈ pre ++ code :: post := split ▸ mem_takenOrder.mpr other
    rcases List.mem_append.mp listed with early | late
    · exact absurd (takeAccount_isOk.mp (passed code' early)) unserved
    · exact late
  have sorted := takenOrder_sorted codes
  rw [split, List.pairwise_append, List.pairwise_cons] at sorted
  rcases List.mem_cons.mp later with rfl | after
  · exact le_refl _
  · exact sorted.2.1.1 code' after

theorem holdAccounts_eq_error_iff :
    b.holdAccounts tenant codes = .error f ↔
      ∃ code ∈ codes, b.Refuses tenant code f ∧
        ∀ code' ∈ codes, ¬ b.Serves tenant code' → code ≤ code' := by
  refine ⟨holdAccounts_refused_least, ?_⟩
  rintro ⟨code, member, refused, least⟩
  -- the posting stops somewhere, since this code does not serve; it stops at the least code
  -- that does not serve, which is this one
  cases held : b.holdAccounts tenant codes with
  | ok r =>
    rw [holdAccounts_eq_mapM] at held
    obtain ⟨v, _, taken⟩ := mapM_eq_ok_cover held (mem_takenOrder.mpr member)
    exact absurd (takeAccount_isOk.mp ⟨v, taken⟩) refused.not_serves
  | error f' =>
    obtain ⟨code', member', refused', least'⟩ := holdAccounts_refused_least held
    have same : code' = code :=
      le_antisymm (least' code member refused.not_serves) (least code' member' refused'.not_serves)
    rw [same] at refused'
    rw [refused'.unique refused]

-- A posting takes its accounts exactly when every code serves.
theorem holdAccounts_isOk_iff :
    (∃ held, b.holdAccounts tenant codes = .ok held) ↔ ∀ code ∈ codes, b.Serves tenant code := by
  constructor
  · rintro ⟨held, taken⟩ code member
    rw [holdAccounts_eq_mapM] at taken
    obtain ⟨v, _, stored⟩ := mapM_eq_ok_cover taken (mem_takenOrder.mpr member)
    exact takeAccount_isOk.mp ⟨v, stored⟩
  · intro serves
    rw [holdAccounts_eq_mapM]
    exact mapM_isOk_of_forall fun code member => takeAccount_isOk.mpr (serves code (mem_takenOrder.mp member))

end Books

section Names

variable {held : Held}

-- Applying a line moves its account's balance and keeps the names of all held accounts.
theorem applyPosting_names {code : String} {debit credit balance : Decimal} {user : String}
    {now : Timestamp} {held' : Held}
    (applied : applyPosting held code debit credit user now = .ok (balance, held')) (k : String) :
    (held'.lookup k).map (·.name) = (held.lookup k).map (·.name) := by
  obtain ⟨a, found, _, rfl⟩ := applyPosting_eq_ok applied
  rw [lookup_replace found]
  split
  · rename_i same
    rw [same, found]
    rfl
  · rfl

-- The lines applied carry the names of the accounts held for their codes.
theorem applyLines_named {tenant : String} {c : Ctx} {lines out : List Line} {held' : Held}
    {writes : List (String × Decimal)} (applied : applyLines tenant c lines held = .ok (out, held', writes)) :
    out = lines.map fun l => { l with accountName := ((held.lookup l.code).map (·.name)).getD "" } := by
  induction lines generalizing held out writes with
  | nil => simp only [applyLines, Except.ok.injEq, Prod.mk.injEq] at applied; simp [← applied.1]
  | cons l rest ih =>
    simp only [applyLines] at applied
    split at applied
    · cases applied
    · rename_i balance held₁ posting
      split at applied
      · cases applied
      · rename_i out' held'' writes' rest_applied
        simp only [Except.ok.injEq, Prod.mk.injEq] at applied
        obtain ⟨rfl, rfl, rfl⟩ := applied
        -- the held accounts after this line have the names they had before it
        have names := applyPosting_names posting
        rw [List.map_cons, ih rest_applied, names]
        congr 1
        exact List.map_congr_left fun l' _ => by rw [names]

end Names

-- A posted entry's lines are the draft's, in line-number order, each named after the account
-- stored under its code in the entry's tenant.
theorem postLines_named {b : Books} {c : Ctx} {e e' : Entry} {writes : List (String × Decimal)}
    (posted : postLines b c e = .ok (e', writes)) :
    e'.lines = (sortBy (fun x y => decide (x.number ≤ y.number)) e.lines).map fun l =>
      { l with accountName := b.accountName e.tenant l.code } := by
  obtain ⟨_, _, held, lines, _, _, hold, applied, rfl⟩ := postLines_eq_ok posted
  rw [applyLines_named applied]
  refine List.map_congr_left fun l member => ?_
  -- each line's code is held, by the account stored under it
  obtain ⟨a, found⟩ := Option.isSome_iff_exists.mp (applyLines_held applied l member)
  rw [found, Books.accountName, (holdAccounts_lookup hold found).1]

end Ledger
