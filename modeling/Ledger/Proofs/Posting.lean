import Ledger.Proofs.Value
import Ledger.Proofs.Store

-- Posting an entry, step by step. Taking the accounts holds each line's account once;
-- applying the lines threads every held account's balance through its lines, and each
-- line stages the balance it reached. The last staged balance of an account is its old
-- balance moved by all of its lines, so storing the staged writes in order moves every
-- account of the entry's tenant by the signed deltas of its lines and leaves the others.

namespace Ledger

-- The number a line moves the balance of an account of the given side by.
def Line.delta (side : Side) (l : Line) : ℚ := (signedDelta side l.debit l.credit).value

-- How a list of lines moves the balance of the account with this code and side.
def linesDelta (lines : List Line) (code : String) (side : Side) : ℚ :=
  ((lines.filter (·.code == code)).map (Line.delta side)).sum

-- A posted line is the draft line with the account's name filled in.
def Line.Renamed (posted draft : Line) : Prop := posted = { draft with accountName := posted.accountName }

@[simp] theorem linesDelta_nil (code : String) (side : Side) : linesDelta [] code side = 0 := rfl

theorem linesDelta_cons (l : Line) (rest : List Line) (code : String) (side : Side) :
    linesDelta (l :: rest) code side =
      (if l.code = code then l.delta side else 0) + linesDelta rest code side := by
  by_cases named : l.code = code <;> simp [linesDelta, named]

theorem linesDelta_perm {lines lines' : List Line} (perm : lines.Perm lines') (code : String)
    (side : Side) : linesDelta lines code side = linesDelta lines' code side := by
  unfold linesDelta
  exact ((perm.filter _).map _).sum_eq

theorem linesDelta_renamed {posted draft : List Line} (renamed : List.Forall₂ Line.Renamed posted draft)
    (code : String) (side : Side) : linesDelta posted code side = linesDelta draft code side := by
  induction renamed with
  | nil => rfl
  | cons head _ ih =>
    rw [linesDelta_cons, linesDelta_cons, ih, head]
    rfl

theorem linesDelta_of_absent {lines : List Line} {code : String} (absent : ∀ l ∈ lines, l.code ≠ code)
    (side : Side) : linesDelta lines code side = 0 := by
  have empty : lines.filter (·.code == code) = [] :=
    List.filter_eq_nil_iff.mpr fun l member => by simpa using absent l member
  simp [linesDelta, empty]

theorem renamed_map {posted draft : List Line} (renamed : List.Forall₂ Line.Renamed posted draft)
    {β : Type} (f : Line → β) (same : ∀ l name, f { l with accountName := name } = f l) :
    posted.map f = draft.map f := by
  induction renamed with
  | nil => rfl
  | cons head _ ih => rw [List.map_cons, List.map_cons, ih, head, same]

section Held

variable {held : Held}

theorem lookup_replace_other {code k : String} (a' : Account) (other : k ≠ code) :
    (held.map fun h => if h.1 == code then (code, a') else h).lookup k = held.lookup k := by
  induction held with
  | nil => rfl
  | cons h rest ih =>
    obtain ⟨hk, ha⟩ := h
    by_cases here : hk = code
    · subst here
      simpa [List.lookup_cons, beq_eq_false_iff_ne.mpr other] using ih
    · by_cases asked : k = hk
      · subst asked; simp [here]
      · simpa [List.lookup_cons, beq_eq_false_iff_ne.mpr asked, here] using ih

theorem lookup_replace_self {code : String} (present : (held.lookup code).isSome) (a' : Account) :
    (held.map fun h => if h.1 == code then (code, a') else h).lookup code = some a' := by
  induction held with
  | nil => simp at present
  | cons h rest ih =>
    obtain ⟨hk, ha⟩ := h
    by_cases here : hk = code
    · subst here; simp
    · have further : (rest.lookup code).isSome := by
        simpa [List.lookup_cons, beq_eq_false_iff_ne.mpr (Ne.symm here)] using present
      simpa [List.lookup_cons, beq_eq_false_iff_ne.mpr (Ne.symm here), here] using ih further

theorem lookup_replace {code : String} {a : Account} (found : held.lookup code = some a)
    (a' : Account) (k : String) :
    (held.map fun h => if h.1 == code then (code, a') else h).lookup k =
      if k = code then some a' else held.lookup k := by
  by_cases asked : k = code
  · subst asked; rw [if_pos rfl, lookup_replace_self (by simp [found])]
  · rw [if_neg asked, lookup_replace_other a' asked]

-- One line applied to the held accounts: its account is held, its balance moves by the
-- line's signed delta, and nothing else changes.
theorem applyPosting_eq_ok {code : String} {debit credit balance : Decimal} {user : String}
    {now : Timestamp} {held' : Held}
    (applied : applyPosting held code debit credit user now = .ok (balance, held')) :
    ∃ a, held.lookup code = some a ∧ balance = a.balance + signedDelta a.side debit credit ∧
      held' = held.map fun h =>
        if h.1 == code then (code, { a with balance, audit := a.audit.touch user now }) else h := by
  unfold applyPosting at applied
  cases found : held.lookup code with
  | none => simp [found] at applied
  | some a =>
    simp only [found] at applied
    split at applied
    · cases applied
    · split at applied
      · cases applied
      · cases applied
      · simp only [Except.ok.injEq, Prod.mk.injEq] at applied
        obtain ⟨rfl, rfl⟩ := applied
        exact ⟨a, rfl, rfl, rfl⟩

end Held

section ApplyLines

variable {tenant : String} {c : Ctx}

theorem applyLines_cons {l : Line} {rest : List Line} {held held' : Held} {out : List Line}
    {writes : List (String × Decimal)}
    (applied : applyLines tenant c (l :: rest) held = .ok (out, held', writes)) :
    ∃ balance held₁ out' writes', applyPosting held l.code l.debit l.credit c.user c.now =
        .ok (balance, held₁) ∧ applyLines tenant c rest held₁ = .ok (out', held', writes') ∧
      (∃ name, out = { l with accountName := name } :: out') ∧
      writes = (accountKey tenant l.code, balance) :: writes' := by
  simp only [applyLines] at applied
  split at applied
  · cases applied
  · rename_i balance held₁ posting
    split at applied
    · cases applied
    · rename_i out' held'' writes' rest_applied
      simp only [Except.ok.injEq, Prod.mk.injEq] at applied
      obtain ⟨rfl, rfl, rfl⟩ := applied
      exact ⟨balance, held₁, out', writes', posting, rest_applied, ⟨_, rfl⟩, rfl⟩

theorem applyLines_renamed {lines out : List Line} {held held' : Held} {writes : List (String × Decimal)}
    (applied : applyLines tenant c lines held = .ok (out, held', writes)) :
    List.Forall₂ Line.Renamed out lines := by
  induction lines generalizing held out writes with
  | nil => simp only [applyLines, Except.ok.injEq, Prod.mk.injEq] at applied; simp [← applied.1]
  | cons l rest ih =>
    obtain ⟨_, _, out', _, _, rest_applied, ⟨name, rfl⟩, _⟩ := applyLines_cons applied
    exact .cons rfl (ih rest_applied)

theorem applyLines_keys {lines out : List Line} {held held' : Held} {writes : List (String × Decimal)}
    (applied : applyLines tenant c lines held = .ok (out, held', writes)) :
    writes.map Prod.fst = lines.map fun l => accountKey tenant l.code := by
  induction lines generalizing held out writes with
  | nil => simp only [applyLines, Except.ok.injEq, Prod.mk.injEq] at applied; simp [← applied.2.2]
  | cons l rest ih =>
    obtain ⟨_, _, _, _, _, rest_applied, _, rfl⟩ := applyLines_cons applied
    simp [ih rest_applied]

-- Every line's account is held: an unheld code stops the posting.
theorem applyLines_held {lines out : List Line} {held held' : Held} {writes : List (String × Decimal)}
    (applied : applyLines tenant c lines held = .ok (out, held', writes)) :
    ∀ l ∈ lines, (held.lookup l.code).isSome := by
  induction lines generalizing held out writes with
  | nil => simp
  | cons l rest ih =>
    obtain ⟨_, held₁, _, _, posting, rest_applied, _, _⟩ := applyLines_cons applied
    obtain ⟨a, found, _, rfl⟩ := applyPosting_eq_ok posting
    intro l' member
    rcases List.mem_cons.mp member with rfl | later
    · simp [found]
    · have heldLater := ih rest_applied l' later
      rw [lookup_replace found] at heldLater
      by_cases same : l'.code = l.code
      · simp [same, found]
      · simpa [same] using heldLater

-- The balance an account reaches after all lines is its balance before them moved by its
-- lines; its last staged write carries that balance, and without lines it is untouched.
theorem applyLines_balance {lines out : List Line} {held held' : Held}
    {writes : List (String × Decimal)}
    (applied : applyLines tenant c lines held = .ok (out, held', writes)) {code : String} {a : Account}
    (found : held.lookup code = some a) :
    ∃ a', held'.lookup code = some a' ∧ a'.side = a.side ∧
      a'.balance.value = a.balance.value + linesDelta lines code a.side ∧
      ((∃ l ∈ lines, l.code = code) → lastWrite writes (accountKey tenant code) = some a'.balance) ∧
      ((∀ l ∈ lines, l.code ≠ code) → a' = a) := by
  induction lines generalizing held out writes a with
  | nil =>
    simp only [applyLines, Except.ok.injEq, Prod.mk.injEq] at applied
    obtain ⟨_, rfl, _⟩ := applied
    exact ⟨a, found, rfl, by simp, by simp, fun _ => rfl⟩
  | cons l rest ih =>
    obtain ⟨balance, held₁, _, writes', posting, rest_applied, _, rfl⟩ := applyLines_cons applied
    obtain ⟨a₀, found₀, moved, rfl⟩ := applyPosting_eq_ok posting
    have restKeys := applyLines_keys rest_applied
    by_cases named : l.code = code
    · -- the line's own account: one delta now, the rest from the remaining lines
      subst named
      have same : a₀ = a := by rw [found₀] at found; exact Option.some.inj found
      subst same
      have found₁ := lookup_replace found₀ { a₀ with balance, audit := a₀.audit.touch c.user c.now } l.code
      simp only [if_pos] at found₁
      obtain ⟨a', found', side, value, written, untouched⟩ := ih rest_applied found₁
      refine ⟨a', found', side, ?_, fun _ => ?_, fun absent => absurd rfl (absent l (by simp))⟩
      · rw [value, linesDelta_cons, moved, Decimal.value_add]
        simp [Line.delta, add_assoc]
      · by_cases later : ∃ l' ∈ rest, l'.code = l.code
        · simp [lastWrite, written later]
        · have none : lastWrite writes' (accountKey tenant l.code) = none := by
            rw [lastWrite_eq_none]
            intro w member same
            have : w.1 ∈ rest.map fun l' => accountKey tenant l'.code := by
              rw [← restKeys]; exact List.mem_map_of_mem member
            obtain ⟨l', member', key⟩ := List.mem_map.mp this
            exact later ⟨l', member', accountKey_inj.mp (key.trans same)⟩
          have kept := untouched fun l' member' same => later ⟨l', member', same⟩
          simp [lastWrite, none, kept, moved]
    · -- another line: the account is carried to the remaining lines as it was
      have found₁ : (held.map fun h => if h.1 == l.code then
          (l.code, { a₀ with balance, audit := a₀.audit.touch c.user c.now }) else h).lookup code =
            some a := by
        rw [lookup_replace found₀, if_neg (Ne.symm named), found]
      obtain ⟨a', found', side, value, written, untouched⟩ := ih rest_applied found₁
      refine ⟨a', found', side, ?_, fun present => ?_, fun absent => untouched fun l' m => absent l' (by simp [m])⟩
      · rw [value, linesDelta_cons, if_neg named, zero_add]
      · obtain ⟨l', member', same⟩ := present
        rcases List.mem_cons.mp member' with rfl | later
        · exact absurd same named
        · simp [lastWrite, written ⟨l', later, same⟩]

end ApplyLines


section Hold

variable {α β ε : Type} {f : α → Except ε β}

theorem mapM_cons_eq_ok {x : α} {rest : List α} {r : List β} (mapped : (x :: rest).mapM f = .ok r) :
    ∃ y ys, f x = .ok y ∧ rest.mapM f = .ok ys ∧ r = y :: ys := by
  simp only [List.mapM_cons] at mapped
  cases fx : f x with
  | error e => simp [fx] at mapped; cases mapped
  | ok y =>
    cases frest : rest.mapM f with
    | error e => simp [fx, frest] at mapped; cases mapped
    | ok ys =>
      simp only [fx, frest] at mapped
      exact ⟨y, ys, rfl, rfl, (Except.ok.inj mapped).symm⟩

theorem mapM_eq_ok_mem {l : List α} {r : List β} (mapped : l.mapM f = .ok r) {y : β} (member : y ∈ r) :
    ∃ x ∈ l, f x = .ok y := by
  induction l generalizing r with
  | nil => cases mapped; simp at member
  | cons x rest ih =>
    obtain ⟨y', ys, fx, frest, rfl⟩ := mapM_cons_eq_ok mapped
    rcases List.mem_cons.mp member with rfl | later
    · exact ⟨x, by simp, fx⟩
    · obtain ⟨x', member', fx'⟩ := ih frest later
      exact ⟨x', by simp [member'], fx'⟩

theorem mapM_eq_ok_cover {l : List α} {r : List β} (mapped : l.mapM f = .ok r) {x : α} (member : x ∈ l) :
    ∃ y ∈ r, f x = .ok y := by
  induction l generalizing r with
  | nil => simp at member
  | cons x' rest ih =>
    obtain ⟨y', ys, fx, frest, rfl⟩ := mapM_cons_eq_ok mapped
    rcases List.mem_cons.mp member with rfl | later
    · exact ⟨y', by simp, fx⟩
    · obtain ⟨y, member', fy⟩ := ih frest later
      exact ⟨y, by simp [member'], fy⟩

variable {b : Books} {tenant : String} {codes : List String} {held : Held}

-- A held account is the stored account of its code in the tenant, and it is active.
theorem holdAccounts_lookup (hold : b.holdAccounts tenant codes = .ok held) {code : String}
    {a : Account} (found : held.lookup code = some a) :
    b.account? (accountKey tenant code) = some a ∧ a.tenant = tenant ∧ a.active = true := by
  unfold Books.holdAccounts at hold
  obtain ⟨pre, post, rfl, _⟩ := List.lookup_eq_some_iff.mp found
  obtain ⟨x, _, taken⟩ := mapM_eq_ok_mem hold (y := (code, a)) (by simp)
  split at taken
  · cases taken
  · rename_i stored stored_found
    split at taken
    · cases taken
    · split at taken
      · cases taken
      · rename_i foreign inactive
        simp only [Except.ok.injEq, Prod.mk.injEq] at taken
        obtain ⟨rfl, rfl⟩ := taken
        exact ⟨stored_found, by simpa using foreign, by simpa using inactive⟩

-- Every code asked for is held.
theorem holdAccounts_covers (hold : b.holdAccounts tenant codes = .ok held) {code : String}
    (member : code ∈ codes) : (held.lookup code).isSome := by
  unfold Books.holdAccounts at hold
  obtain ⟨y, held_y, taken⟩ := mapM_eq_ok_cover hold (x := code) (by simp [List.mem_eraseDups, member])
  split at taken
  · cases taken
  · split at taken
    · cases taken
    · split at taken
      · cases taken
      · cases taken
        exact List.lookup_isSome_iff.mpr ⟨_, held_y, by simp⟩

end Hold

theorem mem_foldl_codes {code : String} (lines : List Line) (acc : List String) :
    code ∈ lines.foldl (fun acc l => if acc.contains l.code then acc else acc ++ [l.code]) acc ↔
      code ∈ acc ∨ ∃ l ∈ lines, l.code = code := by
  induction lines generalizing acc with
  | nil => simp
  | cons l rest ih =>
    rw [List.foldl_cons, ih]
    by_cases known : l.code ∈ acc
    · rw [if_pos (by simpa using known)]
      grind
    · rw [if_neg (by simpa using known), List.mem_append, List.mem_singleton]
      grind

theorem Entry.mem_codes {e : Entry} {code : String} :
    code ∈ e.codes ↔ ∃ l ∈ e.lines, l.code = code := by
  rw [Entry.codes, mem_foldl_codes]
  simp

-- A checked list of lines has two lines at least, and its debits and credits sum to the
-- same value, which the check returns as its totals.
theorem checkBalance_eq_ok {lines : List Line} {debit credit : Decimal}
    (checked : checkBalance lines = .ok (debit, credit)) :
    2 ≤ lines.length ∧ debit = sumAmounts (lines.map (·.debit)) ∧
      credit = sumAmounts (lines.map (·.credit)) ∧ debit.value = credit.value := by
  unfold checkBalance at checked
  by_cases few : lines.length < 2
  · simp [few] at checked; cases checked
  · simp only [few, if_false, bind, Except.bind, pure, Except.pure] at checked
    split at checked
    · cases checked
    · split at checked
      · cases checked
      · rename_i same
        simp only [Except.ok.injEq, Prod.mk.injEq] at checked
        obtain ⟨rfl, rfl⟩ := checked
        refine ⟨by omega, rfl, rfl, (Decimal.sameValue_iff _ _).mp (by simpa using same)⟩

section PostLines

variable {b : Books} {c : Ctx} {e e' : Entry} {writes : List (String × Decimal)}

theorem postLines_eq_ok (posted : postLines b c e = .ok (e', writes)) :
    ∃ debit credit held lines held',
      checkBalance e.lines = .ok (debit, credit) ∧ b.holdAccounts e.tenant e.codes = .ok held ∧
      applyLines e.tenant c (sortBy (fun x y => decide (x.number ≤ y.number)) e.lines) held =
        .ok (lines, held', writes) ∧
      e' = { e with
        lines, status := .posted, totalDebit := debit, totalCredit := credit, postedBy := c.user,
        postedAt := some c.now, audit := e.audit.touch c.user c.now } := by
  unfold postLines at posted
  obtain ⟨⟨debit, credit⟩, checked, posted⟩ := Except.bind_eq_ok.mp posted
  obtain ⟨held, hold, posted⟩ := Except.bind_eq_ok.mp posted
  obtain ⟨⟨lines, held', writes'⟩, applied, posted⟩ := Except.bind_eq_ok.mp posted
  simp only [pure, Except.pure, Except.ok.injEq, Prod.mk.injEq] at posted
  obtain ⟨rfl, rfl⟩ := posted
  exact ⟨debit, credit, held, lines, held', checked, hold, applied, rfl⟩

-- The posted entry: the same entry, posted now by the user, its lines those of the draft in
-- line-number order with account names filled in.
theorem postLines_entry (posted : postLines b c e = .ok (e', writes)) :
    ∃ lines debit credit,
      e' = { e with
        lines, status := .posted, totalDebit := debit, totalCredit := credit, postedBy := c.user,
        postedAt := some c.now, audit := e.audit.touch c.user c.now } ∧
      List.Forall₂ Line.Renamed lines (sortBy (fun x y => decide (x.number ≤ y.number)) e.lines) := by
  obtain ⟨debit, credit, _, lines, _, _, _, applied, rfl⟩ := postLines_eq_ok posted
  exact ⟨lines, debit, credit, rfl, applyLines_renamed applied⟩

theorem postLines_renamed (posted : postLines b c e = .ok (e', writes)) :
    List.Forall₂ Line.Renamed e'.lines (sortBy (fun x y => decide (x.number ≤ y.number)) e.lines) := by
  obtain ⟨lines, _, _, rfl, renamed⟩ := postLines_entry posted
  exact renamed

theorem postLines_lines_perm (posted : postLines b c e = .ok (e', writes)) :
    ∃ ordered, ordered.Perm e.lines ∧ List.Forall₂ Line.Renamed e'.lines ordered :=
  ⟨_, sortBy_perm _ _, postLines_renamed posted⟩

-- The posted entry keeps the draft's tenant, number and links, and records who posted it when.
theorem postLines_fields (posted : postLines b c e = .ok (e', writes)) :
    e'.tenant = e.tenant ∧ e'.number = e.number ∧ e'.key = e.key ∧ e'.status = .posted ∧
      e'.reversalOf = e.reversalOf ∧ e'.reversedBy = e.reversedBy ∧ e'.postedBy = c.user ∧
      e'.postedAt = some c.now := by
  obtain ⟨_, _, _, rfl, _⟩ := postLines_entry posted
  exact ⟨rfl, rfl, rfl, rfl, rfl, rfl, rfl, rfl⟩

theorem postLines_codes (posted : postLines b c e = .ok (e', writes)) :
    (e'.lines.map (·.code)).Perm (e.lines.map (·.code)) := by
  obtain ⟨ordered, perm, renamed⟩ := postLines_lines_perm posted
  rw [renamed_map renamed _ (fun _ _ => rfl)]
  exact perm.map _

theorem postLines_linesDelta (posted : postLines b c e = .ok (e', writes)) (code : String)
    (side : Side) : linesDelta e'.lines code side = linesDelta e.lines code side := by
  obtain ⟨ordered, perm, renamed⟩ := postLines_lines_perm posted
  rw [linesDelta_renamed renamed, linesDelta_perm perm]

-- Every line names an active account of the entry's tenant.
theorem postLines_resolve (posted : postLines b c e = .ok (e', writes)) :
    ∀ l ∈ e.lines, ∃ a ∈ b.accounts, a.tenant = e.tenant ∧ a.code = l.code ∧ a.active = true := by
  obtain ⟨_, _, held, _, _, _, hold, _, _⟩ := postLines_eq_ok posted
  intro l member
  have covered := holdAccounts_covers hold (Entry.mem_codes.mpr ⟨l, member, rfl⟩)
  obtain ⟨a, found⟩ := Option.isSome_iff_exists.mp covered
  obtain ⟨stored, tenant, active⟩ := holdAccounts_lookup hold found
  obtain ⟨member', key⟩ := Books.account?_some stored
  refine ⟨a, member', tenant, ?_, active⟩
  rw [Account.key, tenant] at key
  exact accountKey_inj.mp key

-- The posted lines balance: their debits and credits sum to one value.
theorem postLines_balanced (posted : postLines b c e = .ok (e', writes)) :
    (e'.lines.map (·.debit.value)).sum = (e'.lines.map (·.credit.value)).sum := by
  obtain ⟨debit, credit, _, _, _, checked, _, applied, rfl⟩ := postLines_eq_ok posted
  obtain ⟨_, rfl, rfl, same⟩ := checkBalance_eq_ok checked
  have renamed := applyLines_renamed applied
  have perm := sortBy_perm (fun x y => decide (x.number ≤ y.number)) e.lines
  simp only [sumAmounts_value, List.map_map] at same
  rw [renamed_map renamed _ (fun _ _ => rfl), renamed_map renamed (fun l => l.credit.value) (fun _ _ => rfl),
    (perm.map _).sum_eq, (perm.map (fun l => l.credit.value)).sum_eq]
  exact same

-- Storing a posting's writes moves each account of the entry's tenant by the signed deltas of
-- the entry's lines on its code, and leaves every other account as it was.
theorem postLines_accounts (nodup : (b.accounts.map Account.key).Nodup)
    (posted : postLines b c e = .ok (e', writes)) (user : String) (now : Timestamp) :
    ∀ x ∈ b.accounts, (writeBalance writes user now x).balance.value =
      x.balance.value + if x.tenant = e.tenant then linesDelta e.lines x.code x.side else 0 := by
  obtain ⟨_, _, held, ordered', held', _, hold, applied, _⟩ := postLines_eq_ok posted
  have perm := sortBy_perm (fun x y => decide (x.number ≤ y.number)) e.lines
  have keys := applyLines_keys applied
  intro x member
  cases written : lastWrite writes x.key with
  | none =>
    -- no write names the account, so none of its tenant's lines is on its code
    rw [writeBalance_of_none _ _ _ _ written]
    split
    · rename_i sameTenant
      rw [linesDelta_of_absent _ x.side, add_zero]
      intro l lineMember same
      have : accountKey e.tenant l.code ∈ writes.map Prod.fst := by
        rw [keys]; exact List.mem_map_of_mem (perm.mem_iff.mpr lineMember)
      obtain ⟨w, wMember, wKey⟩ := List.mem_map.mp this
      exact lastWrite_eq_none.mp written w wMember (by rw [wKey, Account.key, sameTenant, same])
    · rw [add_zero]
  | some v =>
    -- a write names the account, so it is the held account of some line's code
    rw [writeBalance_of_some _ _ _ _ written]
    have named : ∃ w ∈ writes, w.1 = x.key := by
      by_contra none
      push Not at none
      rw [lastWrite_eq_none.mpr none] at written
      cases written
    obtain ⟨w, wMember, wKey⟩ := named
    have fromLine : w.1 ∈ (sortBy (fun x y => decide (x.number ≤ y.number)) e.lines).map
        fun l => accountKey e.tenant l.code := by
      rw [← keys]; exact List.mem_map_of_mem wMember
    obtain ⟨l, lineMember, lineKey⟩ := List.mem_map.mp fromLine
    obtain ⟨a, found⟩ := Option.isSome_iff_exists.mp (applyLines_held applied l lineMember)
    obtain ⟨stored, tenant, _⟩ := holdAccounts_lookup hold found
    obtain ⟨aMember, aKey⟩ := Books.account?_some stored
    have same : a = x :=
      List.inj_on_of_nodup_map nodup aMember member (aKey.trans (lineKey.trans wKey))
    rw [← same] at written ⊢
    have code : a.code = l.code := by
      rw [Account.key, tenant] at aKey; exact accountKey_inj.mp aKey
    obtain ⟨a', _, _, value, lastW, _⟩ := applyLines_balance applied found
    rw [aKey, lastW ⟨l, lineMember, rfl⟩] at written
    rw [← Option.some.inj written, value, if_pos tenant, code, linesDelta_perm perm]

end PostLines

end Ledger
