import Ledger.Proofs.PostingOutcome

-- What reversing an entry gives, and what reversing the reversal gives. A reversal of an entry of
-- the caller's tenant is refused when the entry is reversed or linked already, then when it is not
-- posted, and then only when one of its accounts is now inactive: in a state a session reaches the
-- compensating lines pass the line check and name the tenant's own accounts, so taking them can
-- only meet an inactive one, the least such code first. A reversal that succeeds posts the
-- compensation under the next reversal number, whose lines move every account back by the entry's
-- own, and marks the entry reversed by it. A later reversal of that compensation, whatever ran in
-- between, moves every account forward by the entry's lines again and leaves the entry reversed
-- by the compensation, which is now reversed itself.

namespace Ledger

namespace Books

-- The tenant's account with the code is stored and inactive.
def Inactive (b : Books) (tenant code : String) : Prop :=
  ∃ a ∈ b.accounts, a.tenant = tenant ∧ a.code = code ∧ a.active = false

end Books

-- Why reversing the entry `n` is refused, in the order the journal checks: it is reversed, or
-- names a compensation, already; it is not posted; or an account of its lines is now inactive,
-- the least such code being reported.
inductive Entry.ReversalRefused (n : Entry) (b : Books) : Fault → Prop
  | reversed (done : n.status = .reversed ∨ n.reversedBy ≠ "") :
      ReversalRefused n b (.alreadyReversed n.number n.reversedBy)
  | notPosted (unreversed : n.status ≠ .reversed) (unlinked : n.reversedBy = "")
      (unposted : n.status ≠ .posted) :
      ReversalRefused n b (.notPostedYet n.number n.status)
  | inactive {l : Line} (posted : n.status = .posted) (unlinked : n.reversedBy = "") (line : l ∈ n.lines)
      (dormant : b.Inactive n.tenant l.code)
      (least : ∀ l' ∈ n.lines, b.Inactive n.tenant l'.code → l.code ≤ l'.code) :
      ReversalRefused n b (.inactive l.code)

-- What a reversal that succeeded did with the posted entry `n`: it posted the compensation `comp`
-- in the caller's tenant under the next reversal number, naming `n`; marked `n` reversed by it,
-- all else about `n` kept but its last change; stored both; and moved every account back by the
-- signed deltas of `n`'s lines, which the compensation's lines cancel code by code.
structure Office.ReversedAs (o o' : Office) (c : Ctx) (n src comp : Entry) : Prop where
  number : comp.number = Office.entryNumber "RV" (o.books.lastNumber c.tenant "RV" + 1)
  posted : comp.status = .posted
  tenant : comp.tenant = c.tenant
  reversalOf : comp.reversalOf = n.number
  source : src = { n with status := .reversed, reversedBy := comp.number, audit := src.audit }
  storedSource : o'.books.entry? n.key = some src
  storedCompensation : o'.books.entry? comp.key = some comp
  moved : o'.books.Moves o.books fun a =>
    -(if a.tenant = c.tenant then linesDelta n.lines a.code a.side else 0)
  cancels : ∀ code side, linesDelta comp.lines code side + linesDelta n.lines code side = 0

-- What a later reversal of the compensation `comp` of `n` did: it moved every account forward by
-- the signed deltas of `n`'s lines, left `n` stored as `src`, reversed by `comp`, and stored
-- `comp` reversed, by a compensation of its own.
structure Office.UndoneAs (o o' : Office) (n src comp comp' : Entry) : Prop where
  moved : o'.books.Moves o.books fun a =>
    if a.tenant = n.tenant then linesDelta n.lines a.code a.side else 0
  source : o'.books.entry? n.key = some src
  compensation : o'.books.entry? comp.key = some comp'
  reversed : comp' = { comp with
    status := .reversed, reversedBy := comp'.reversedBy, audit := comp'.audit }
  linked : comp'.reversedBy ≠ ""

section Compensation

-- Exchanging a line's debit and credit turns its signed delta around.
theorem Line.delta_swap (side : Side) (l : Line) : l.swap.delta side = -l.delta side := by
  simp only [Line.delta, Line.swap, signedDelta_value]
  ring

theorem linesDelta_eq_sum (lines : List Line) (code : String) (side : Side) :
    linesDelta lines code side = (lines.map fun l => if l.code = code then l.delta side else 0).sum := by
  induction lines with
  | nil => rfl
  | cons l rest ih => rw [linesDelta_cons, ih, List.map_cons, List.sum_cons]

@[simp] theorem compensation_tenant (c : Ctx) (id number : String) (src : Entry) :
    (Office.compensation c id number src).tenant = c.tenant := rfl

-- The codes an entry holds depend only on its lines' codes, in order.
theorem Entry.codes_congr {e e' : Entry} (same : e'.lines.map (·.code) = e.lines.map (·.code)) :
    e'.codes = e.codes := by
  have folded : ∀ x : Entry, x.codes =
      (x.lines.map (·.code)).foldl (fun acc code => if acc.contains code then acc else acc ++ [code]) [] :=
    fun x => by rw [List.foldl_map]; rfl
  rw [folded, folded e, same]

theorem Entry.forall_mem_codes {e : Entry} {P : String → Prop} :
    (∀ code ∈ e.codes, P code) ↔ ∀ l ∈ e.lines, P l.code := by
  simp [Entry.mem_codes]

theorem compensation_codes (c : Ctx) (id number : String) (src : Entry) :
    (Office.compensation c id number src).codes = src.codes :=
  Entry.codes_congr (map_zip_range _ _ _ _ fun _ _ => rfl)

-- The compensation's lines move every account by the opposite of the source's.
theorem linesDelta_compensation (c : Ctx) (id number : String) (src : Entry) (code : String)
    (side : Side) :
    linesDelta (Office.compensation c id number src).lines code side = -linesDelta src.lines code side := by
  have swapped : ((Office.compensation c id number src).lines.map fun l =>
      if l.code = code then l.delta side else 0) =
      src.lines.map fun l => -(if l.code = code then l.delta side else 0) := by
    refine map_zip_range _ _ _ _ fun _ l => ?_
    show (if l.code = code then l.swap.delta side else 0) = -(if l.code = code then l.delta side else 0)
    split <;> simp [Line.delta_swap]
  rw [linesDelta_eq_sum, linesDelta_eq_sum, swapped, List.sum_neg, List.map_map]
  rfl

end Compensation

namespace Books

variable {b : Books}

theorem Moves.of_accounts {b' c' c : Books} {delta : Account → ℚ} (moves : b'.Moves b delta)
    (later : c'.accounts = b'.accounts) (earlier : c.accounts = b.accounts) : c'.Moves c delta := by
  unfold Moves at moves ⊢
  rwa [later, earlier]

theorem Moves.congr {b' : Books} {delta delta' : Account → ℚ} (moves : b'.Moves b delta)
    (same : ∀ a, delta a = delta' a) : b'.Moves b delta' :=
  moves.imp fun {_ a} moved => ⟨moved.1, moved.2.trans (by rw [same a])⟩

-- The entry an entry's own number names in its tenant is the entry itself.
theorem Wellformed.named_self (sound : b.Wellformed) {e : Entry} (member : e ∈ b.entries) :
    b.named e.tenant e.number = some e :=
  (Books.entry?_eq_some sound.entryKeys).mpr ⟨member, rfl⟩

-- Reserving a number leaves the accounts, and so every account check, as they are.
theorem serves_nextNumber (tenant pfx : String) : (b.nextNumber tenant pfx).2.Serves = b.Serves := rfl

theorem holdAccounts_nextNumber (tenant pfx : String) :
    (b.nextNumber tenant pfx).2.holdAccounts = b.holdAccounts := rfl

-- A code of an entry out of draft names an account of the entry's tenant: it fails to serve
-- exactly when that account is inactive, and is refused only as inactive.
theorem Wellformed.serves_resolved (sound : b.Wellformed) {e : Entry} (member : e ∈ b.entries)
    (live : e.status ≠ .draft) {l : Line} (line : l ∈ e.lines) :
    (¬ b.Serves e.tenant l.code ↔ b.Inactive e.tenant l.code) ∧
      ∀ f, b.Refuses e.tenant l.code f ↔ b.Inactive e.tenant l.code ∧ f = .inactive l.code := by
  obtain ⟨a, aMember, tenant, code⟩ := sound.resolved e member live l line
  have found : b.account? (accountKey e.tenant l.code) = some a :=
    (Books.account?_eq_some sound.accountKeys).mpr ⟨aMember, by rw [Account.key, tenant, code]⟩
  -- the account under the key is this one, so being inactive is a fact about it alone
  have inactive : b.Inactive e.tenant l.code ↔ a.active = false := by
    constructor
    · rintro ⟨x, xMember, xTenant, xCode, asleep⟩
      have same : x = a := List.inj_on_of_nodup_map sound.accountKeys xMember aMember
        (by rw [Account.key, Account.key, xTenant, xCode, tenant, code])
      rw [← same]
      exact asleep
    · intro asleep
      exact ⟨a, aMember, tenant, code, asleep⟩
  refine ⟨?_, fun f => ?_⟩
  · rw [inactive]
    simp [Serves, found, tenant]
  · rw [inactive]
    unfold Refuses
    cases asleep : a.active <;> simp [found, tenant, asleep]

end Books

namespace Office

variable {o : Office} {c : Ctx} {number : Ref} {e : Entry}

-- A reversal read off the books: it issues its number, then fails on the source and stores
-- nothing more, or posts the compensation and, when the compensation's number is free, stores it
-- and marks the source reversed.
theorem reverseEntry_eq_plan : o.reverseEntry c number =
    match sourcePlan (o.books.nextNumber c.tenant "RV").2 c number with
    | .error f => (.error f, { o with books := (o.books.nextNumber c.tenant "RV").2 })
    | .ok src =>
      match postLines (o.books.nextNumber c.tenant "RV").2 c (compensation c (o.ids (o.issued + 1))
          (entryNumber "RV" (o.books.lastNumber c.tenant "RV" + 1)) src) with
      | .error f => (.error f, { o with books := (o.books.nextNumber c.tenant "RV").2, issued := o.issued + 1 })
      | .ok (comp, writes) =>
        match ((o.books.nextNumber c.tenant "RV").2.applyWrites writes c.user c.now).addEntry comp with
        | .error f => (.error f, { o with books := (o.books.nextNumber c.tenant "RV").2, issued := o.issued + 1 })
        | .ok books =>
          (.ok ({ src with status := .reversed, reversedBy := comp.number, audit := src.audit.touch c.user c.now },
              comp),
            ({ o with
              books := books.replaceEntry
                { src with status := .reversed, reversedBy := comp.number, audit := src.audit.touch c.user c.now },
              issued := o.issued + 1 }).announce c .reversed comp) := by
  unfold reverseEntry
  simp only [freshId]
  rw [Books.withinTxAfter_reversal, Books.nextNumber_fst]
  cases sourcePlan (o.books.nextNumber c.tenant "RV").2 c number with
  | error f => rfl
  | ok src =>
    dsimp only
    cases postLines (o.books.nextNumber c.tenant "RV").2 c (compensation c (o.ids (o.issued + 1))
        (entryNumber "RV" (o.books.lastNumber c.tenant "RV" + 1)) src) with
    | error f => rfl
    | ok r =>
      obtain ⟨comp, writes⟩ := r
      dsimp only
      cases ((o.books.nextNumber c.tenant "RV").2.applyWrites writes c.user c.now).addEntry comp <;> rfl

-- One lemma per way a reversal goes once its number is issued: the entry is reversed or linked
-- already, it is not posted, or it is posted and its compensation is posted and stored.

theorem reverseEntry_alreadyReversed (found : o.books.named c.tenant number = some e)
    (own : e.tenant = c.tenant) (done : e.status = .reversed ∨ e.reversedBy ≠ "") :
    (o.reverseEntry c number).1 = .error (.alreadyReversed e.number e.reversedBy) := by
  have found' : (o.books.nextNumber c.tenant "RV").2.named c.tenant number = some e := found
  have flagged : (e.status == .reversed || !e.reversedBy.isEmpty) = true := by
    rcases done with reversed | linked
    · simp [reversed]
    · simp [linked]
  rw [reverseEntry_eq_plan]
  simp [sourcePlan, checkedEntry, entryByNumber_named, found', own, flagged, bind, Except.bind, throw,
    throwThe, MonadExceptOf.throw]

theorem reverseEntry_notPosted (found : o.books.named c.tenant number = some e)
    (own : e.tenant = c.tenant) (unreversed : e.status ≠ .reversed) (unlinked : e.reversedBy = "")
    (unposted : e.status ≠ .posted) :
    (o.reverseEntry c number).1 = .error (.notPostedYet e.number e.status) := by
  have found' : (o.books.nextNumber c.tenant "RV").2.named c.tenant number = some e := found
  rw [reverseEntry_eq_plan]
  simp [sourcePlan, checkedEntry, entryByNumber_named, found', own, unreversed, unlinked, unposted, bind,
    Except.bind, pure, Except.pure]

theorem reverseEntry_posted (found : o.books.named c.tenant number = some e) (own : e.tenant = c.tenant)
    (posted : e.status = .posted) (unlinked : e.reversedBy = "") :
    o.reverseEntry c number =
      match postLines (o.books.nextNumber c.tenant "RV").2 c (compensation c (o.ids (o.issued + 1))
          (entryNumber "RV" (o.books.lastNumber c.tenant "RV" + 1)) e) with
      | .error f => (.error f, { o with books := (o.books.nextNumber c.tenant "RV").2, issued := o.issued + 1 })
      | .ok (comp, writes) =>
        match ((o.books.nextNumber c.tenant "RV").2.applyWrites writes c.user c.now).addEntry comp with
        | .error f => (.error f, { o with books := (o.books.nextNumber c.tenant "RV").2, issued := o.issued + 1 })
        | .ok books =>
          (.ok ({ e with status := .reversed, reversedBy := comp.number, audit := e.audit.touch c.user c.now }, comp),
            ({ o with
              books := books.replaceEntry
                { e with status := .reversed, reversedBy := comp.number, audit := e.audit.touch c.user c.now },
              issued := o.issued + 1 }).announce c .reversed comp) := by
  have found' : (o.books.nextNumber c.tenant "RV").2.named c.tenant number = some e := found
  have planned : sourcePlan (o.books.nextNumber c.tenant "RV").2 c number = .ok e := by
    simp [sourcePlan, checkedEntry, entryByNumber_named, found', own, posted, unlinked, bind, Except.bind,
      pure, Except.pure]
  rw [reverseEntry_eq_plan, planned]

-- In well-formed books the compensation is stored: it takes the reversal number just issued,
-- which no entry has.
theorem compensation_added (sound : o.books.Wellformed) {comp : Entry} {writes : List (String × Decimal)}
    (posting : postLines (o.books.nextNumber c.tenant "RV").2 c (compensation c (o.ids (o.issued + 1))
      (entryNumber "RV" (o.books.lastNumber c.tenant "RV" + 1)) e) = .ok (comp, writes)) :
    ((o.books.nextNumber c.tenant "RV").2.applyWrites writes c.user c.now).addEntry comp =
      .ok (({ ((o.books.nextNumber c.tenant "RV").2.applyWrites writes c.user c.now) with
        entries := o.books.entries ++ [comp],
        entryIDs := setKey o.books.entryIDs comp.id comp.key }).notePosting comp.key comp.status) := by
  obtain ⟨tenant, numbered, _⟩ := compensation_fields posting
  have free := sound.fresh barFree_reversal c.tenant
  rw [Books.addEntry_eq_ok]
  refine ⟨?_, by rw [Books.applyWrites_eq]; rfl⟩
  simpa [Books.entry?, Entry.key, tenant, numbered] using free

-- In well-formed books, a reversal of a posted, unlinked entry is refused exactly as posting its
-- compensation is, and otherwise reverses the entry by that compensation.
theorem reverseEntry_posted_error_iff (sound : o.books.Wellformed)
    (found : o.books.named c.tenant number = some e) (own : e.tenant = c.tenant)
    (posted : e.status = .posted) (unlinked : e.reversedBy = "") (f : Fault) :
    (o.reverseEntry c number).1 = .error f ↔
      postLines (o.books.nextNumber c.tenant "RV").2 c (compensation c (o.ids (o.issued + 1))
        (entryNumber "RV" (o.books.lastNumber c.tenant "RV" + 1)) e) = .error f := by
  rw [reverseEntry_posted found own posted unlinked]
  cases posting : postLines (o.books.nextNumber c.tenant "RV").2 c (compensation c (o.ids (o.issued + 1))
      (entryNumber "RV" (o.books.lastNumber c.tenant "RV" + 1)) e) with
  | error f' => simp
  | ok r =>
    obtain ⟨comp, writes⟩ := r
    simp [compensation_added sound posting]

-- What a reversal that succeeds in well-formed books did: the entry the number names was posted
-- and unlinked, and the reversal went as `ReversedAs` says.
theorem reverseEntry_reversedAs (sound : o.books.Wellformed)
    (found : o.books.named c.tenant number = some e) (own : e.tenant = c.tenant) {src comp : Entry}
    (reversed : (o.reverseEntry c number).1 = .ok (src, comp)) :
    e.status = .posted ∧ e.reversedBy = "" ∧ o.ReversedAs (o.reverseEntry c number).2 c e src comp := by
  -- a reversal of an entry reversed, linked or out of posting is refused
  have posted : e.status = .posted := by
    by_contra unposted
    by_cases done : e.status = .reversed ∨ e.reversedBy ≠ ""
    · rw [reverseEntry_alreadyReversed found own done] at reversed; cases reversed
    · push Not at done
      rw [reverseEntry_notPosted found own done.1 done.2 unposted] at reversed; cases reversed
  have unlinked : e.reversedBy = "" := by
    by_contra linked
    rw [reverseEntry_alreadyReversed found own (.inr linked)] at reversed; cases reversed
  have member := (named_mem found).1
  rw [reverseEntry_posted found own posted unlinked] at reversed ⊢
  cases posting : postLines (o.books.nextNumber c.tenant "RV").2 c (compensation c (o.ids (o.issued + 1))
      (entryNumber "RV" (o.books.lastNumber c.tenant "RV" + 1)) e) with
  | error f => rw [posting] at reversed; cases reversed
  | ok r =>
    obtain ⟨comp', writes⟩ := r
    have added := compensation_added sound posting
    rw [posting] at reversed
    dsimp only at reversed ⊢
    rw [added] at reversed ⊢
    dsimp only at reversed ⊢
    cases reversed
    obtain ⟨compTenant, compNumber, compPosted, compReversalOf, _⟩ := compensation_fields posting
    obtain ⟨free, _⟩ := Books.addEntry_eq_ok.mp added
    have fresh : ∀ x ∈ o.books.entries, x.key ≠ comp.key := by
      simpa using Books.entry?_eq_none.mp free
    -- the books after: the compensation appended, the source replaced in its place
    set stored : Books := ({ ((o.books.nextNumber c.tenant "RV").2.applyWrites writes c.user c.now) with
      entries := o.books.entries ++ [comp],
      entryIDs := setKey o.books.entryIDs comp.id comp.key }).notePosting comp.key comp.status
    have keys : (stored.entries.map Entry.key).Nodup := by
      simp only [stored, Books.notePosting_entries]
      exact nodup_map_append_singleton Entry.key sound.entryKeys fresh
    have compMember : comp ∈ stored.entries := by simp [stored]
    have srcMember : e ∈ stored.entries := by simp [stored, member]
    have apart : comp.key ≠ e.key := fun same => fresh e member same.symm
    refine ⟨posted, unlinked, ⟨compNumber, compPosted, compTenant, compReversalOf, rfl, ?_, ?_, ?_, ?_⟩⟩
    · exact Books.entry?_replaceEntry keys srcMember rfl
    · rw [Office.announce_books, Books.entry?_eq_some (by rw [Books.replaceEntry_keys]; exact keys)]
      exact ⟨Books.mem_replaceEntry_of_ne compMember apart, rfl⟩
    · -- the balances move by the compensating lines, which turn the source's around
      refine ((Books.moves_of_postLines sound.accountKeys posting c.user c.now).of_accounts
        (by simp [stored, Books.applyWrites_accounts]) rfl).congr fun a => ?_
      simp only [linesDelta_compensation, compensation_tenant]
      split <;> simp
    · intro code side
      rw [postLines_linesDelta posting, linesDelta_compensation, neg_add_cancel]

theorem reverseEntry_posted_isOk_iff (sound : o.books.Wellformed)
    (found : o.books.named c.tenant number = some e) (own : e.tenant = c.tenant)
    (posted : e.status = .posted) (unlinked : e.reversedBy = "") :
    (∃ r, (o.reverseEntry c number).1 = .ok r) ↔
      ∃ r, postLines (o.books.nextNumber c.tenant "RV").2 c (compensation c (o.ids (o.issued + 1))
        (entryNumber "RV" (o.books.lastNumber c.tenant "RV" + 1)) e) = .ok r := by
  rw [reverseEntry_posted found own posted unlinked]
  cases posting : postLines (o.books.nextNumber c.tenant "RV").2 c (compensation c (o.ids (o.issued + 1))
      (entryNumber "RV" (o.books.lastNumber c.tenant "RV" + 1)) e) with
  | error f => simp
  | ok r =>
    obtain ⟨comp, writes⟩ := r
    simp [compensation_added sound posting]

section Reachable

-- The facts of a state a session reaches that a reversal's outcome rests on.
variable {n : Entry} (sound : o.books.Wellformed) (checked : o.books.EntriesChecked)
  (member : n ∈ o.books.entries) (own : n.tenant = c.tenant)
include sound checked member own

-- Reversing an entry of the caller's tenant is refused exactly as `ReversalRefused` says.
theorem reverseEntry_error_iff (f : Fault) :
    (o.reverseEntry c n.number).1 = .error f ↔ n.ReversalRefused o.books f := by
  have found : o.books.named c.tenant n.number = some n := own ▸ sound.named_self member
  by_cases done : n.status = .reversed ∨ n.reversedBy ≠ ""
  · rw [reverseEntry_alreadyReversed found own done, Except.error.injEq]
    constructor
    · rintro rfl
      exact .reversed done
    · intro refused
      cases refused with
      | reversed => rfl
      | notPosted unreversed unlinked => simp [unreversed, unlinked] at done
      | inactive posted unlinked => simp [posted, unlinked] at done
  push Not at done
  obtain ⟨unreversed, unlinked⟩ := done
  by_cases posted : n.status = .posted
  · -- the compensation passes the line check, so only its accounts can refuse it, and those
    -- are the entry's own, each of which is refused only as inactive
    obtain ⟨_, _, passes, _⟩ := (checked n member).wellFormed.compensation c (o.ids (o.issued + 1))
      (entryNumber "RV" (o.books.lastNumber c.tenant "RV" + 1))
    have resolved := fun l (line : l ∈ n.lines) =>
      sound.serves_resolved member (by simp [posted]) line
    rw [reverseEntry_posted_error_iff sound found own posted unlinked, postLines_eq_error_iff passes,
      compensation_codes, compensation_tenant, ← own, Books.holdAccounts_nextNumber,
      Books.holdAccounts_eq_error_iff]
    constructor
    · rintro ⟨code, named, refused, least⟩
      obtain ⟨l, line, rfl⟩ := Entry.mem_codes.mp named
      obtain ⟨dormant, rfl⟩ := ((resolved l line).2 f).mp refused
      exact .inactive posted unlinked line dormant fun l' line' dormant' =>
        least l'.code (Entry.mem_codes.mpr ⟨l', line', rfl⟩) ((resolved l' line').1.mpr dormant')
    · intro refused
      cases refused with
      | reversed done => simp [unreversed, unlinked] at done
      | notPosted _ _ unposted => exact absurd posted unposted
      | @inactive l _ _ line dormant least =>
        refine ⟨l.code, Entry.mem_codes.mpr ⟨l, line, rfl⟩, ((resolved l line).2 _).mpr ⟨dormant, rfl⟩,
          fun code named unserved => ?_⟩
        obtain ⟨l', line', rfl⟩ := Entry.mem_codes.mp named
        exact least l' line' ((resolved l' line').1.mp unserved)
  · rw [reverseEntry_notPosted found own unreversed unlinked posted, Except.error.injEq]
    constructor
    · rintro rfl
      exact .notPosted unreversed unlinked posted
    · intro refused
      cases refused with
      | reversed done => simp [unreversed, unlinked] at done
      | notPosted => rfl
      | inactive posted' => exact absurd posted' posted

-- A reversal of an entry of the caller's tenant succeeds exactly when the entry is posted, names
-- no compensation, and none of its accounts is inactive.
theorem reverseEntry_isOk_iff :
    (∃ r, (o.reverseEntry c n.number).1 = .ok r) ↔
      n.status = .posted ∧ n.reversedBy = "" ∧ ∀ l ∈ n.lines, ¬ o.books.Inactive n.tenant l.code := by
  have found : o.books.named c.tenant n.number = some n := own ▸ sound.named_self member
  -- the compensation passes the line check, so it posts exactly when the entry's accounts serve
  obtain ⟨_, _, passes, _⟩ := (checked n member).wellFormed.compensation c (o.ids (o.issued + 1))
    (entryNumber "RV" (o.books.lastNumber c.tenant "RV" + 1))
  have serves : (∃ r, postLines (o.books.nextNumber c.tenant "RV").2 c (compensation c (o.ids (o.issued + 1))
      (entryNumber "RV" (o.books.lastNumber c.tenant "RV" + 1)) n) = .ok r) ↔
      ∀ l ∈ n.lines, o.books.Serves n.tenant l.code := by
    rw [postLines_isOk_iff passes, ← Entry.forall_mem_codes, compensation_codes, Entry.forall_mem_codes,
      compensation_tenant, ← own, Books.serves_nextNumber]
  constructor
  · rintro ⟨⟨src, comp⟩, reversed⟩
    obtain ⟨posted, unlinked, _⟩ := reverseEntry_reversedAs sound found own reversed
    have served := serves.mp ((reverseEntry_posted_isOk_iff sound found own posted unlinked).mp ⟨_, reversed⟩)
    refine ⟨posted, unlinked, fun l line dormant => ?_⟩
    exact (sound.serves_resolved member (by simp [posted]) line).1.mpr dormant (served l line)
  · rintro ⟨posted, unlinked, awake⟩
    refine (reverseEntry_posted_isOk_iff sound found own posted unlinked).mpr (serves.mpr fun l line => ?_)
    by_contra unserved
    exact awake l line ((sound.serves_resolved member (by simp [posted]) line).1.mp unserved)

end Reachable

-- A reversed entry stays stored, as it is, through any later calls.
theorem run_keeps_reversed (sound : o.books.Wellformed) (member : e ∈ o.books.entries)
    (reversed : e.status = .reversed) (more : List Call) : e ∈ (o.run more).books.entries := by
  obtain ⟨e', member', persists⟩ := Office.run_persists sound member (by simp [reversed]) more
  rwa [persists.eq_of_reversed reversed] at member'

-- Reversing the compensation of a reversal, after any calls, undoes the reversal's movements:
-- the compensation is still stored as it was posted, since anything else would have reversed
-- it, and its own compensation moves every account by the entry's lines once more.
theorem ReversedAs.undone {o₁ : Office} {n src comp : Entry} (sound : o₁.books.Wellformed)
    (first : o.ReversedAs o₁ c n src comp) (own : n.tenant = c.tenant) (more : List Call) {c' : Ctx}
    (same : c'.tenant = c.tenant) {comp' comp'' : Entry}
    (second : ((o₁.run more).reverseEntry c' comp.number).1 = .ok (comp', comp'')) :
    (o₁.run more).UndoneAs ((o₁.run more).reverseEntry c' comp.number).2 n src comp comp' := by
  have sound₂ := run_wellformed_from sound more
  have compMember := ((Books.entry?_eq_some sound.entryKeys).mp first.storedCompensation).1
  have srcMember := ((Books.entry?_eq_some sound.entryKeys).mp first.storedSource).1
  have srcReversed : src.status = .reversed := by rw [first.source]
  -- the version of the compensation the later state holds is the one the second reversal finds
  obtain ⟨comp₂, member₂, persists⟩ :=
    Office.run_persists sound compMember (by simp [first.posted]) more
  have tenant₂ : comp₂.tenant = c'.tenant := by
    rw [persists.field Entry.tenant fun _ _ _ => rfl, first.tenant, same]
  have found : (o₁.run more).books.named c'.tenant comp.number = some comp₂ := by
    rw [← tenant₂, ← persists.field Entry.number fun _ _ _ => rfl]
    exact sound₂.named_self member₂
  obtain ⟨posted₂, _, undo⟩ := reverseEntry_reversedAs sound₂ found tenant₂ second
  -- still posted, so not reversed in between: it is the compensation as first stored
  obtain rfl : comp = comp₂ := by
    rcases persists with same | ⟨_, _, _, _, _, _, rfl⟩
    · exact same.symm
    · cases posted₂
  have sound₃ := run_wellformed_from sound₂ [.reverseEntry c' comp.number]
  have srcMember₃ := run_keeps_reversed sound₂ (run_keeps_reversed sound srcMember srcReversed more)
    srcReversed [.reverseEntry c' comp.number]
  refine ⟨undo.moved.congr fun a => ?_, ?_, undo.storedSource, ?_, ?_⟩
  · rw [same, ← own, eq_neg_of_add_eq_zero_left (first.cancels a.code a.side)]
    split <;> simp
  · exact (Books.entry?_eq_some sound₃.entryKeys).mpr ⟨srcMember₃, by rw [first.source]; rfl⟩
  · rw [undo.source]
  · rw [undo.source, undo.number]
    exact entryNumber_ne_empty _ _

end Office

-- In every state a session reaches, reversing an entry of the caller's tenant is refused
-- exactly as `ReversalRefused` says, and succeeds exactly when the entry is posted, names no
-- compensation and all its accounts are active. A success posts a compensation that moves every
-- account back by the entry's lines; reversing that compensation later, after any calls, moves
-- them forward again and leaves both entries reversed.
theorem reversal_cancels_and_can_be_undone (pageSize : Nat) (calls : List Call) (c : Ctx) {n : Entry}
    (member : n ∈ ((Office.start pageSize).run calls).books.entries) (own : n.tenant = c.tenant) :
    let o := (Office.start pageSize).run calls
    (∀ f, (o.reverseEntry c n.number).1 = .error f ↔ n.ReversalRefused o.books f) ∧
      ((∃ r, (o.reverseEntry c n.number).1 = .ok r) ↔
        n.status = .posted ∧ n.reversedBy = "" ∧ ∀ l ∈ n.lines, ¬ o.books.Inactive c.tenant l.code) ∧
      ∀ src comp, (o.reverseEntry c n.number).1 = .ok (src, comp) →
        o.ReversedAs (o.reverseEntry c n.number).2 c n src comp ∧
          ∀ (more : List Call) (c' : Ctx), c'.tenant = c.tenant → ∀ comp' comp'',
            (((o.reverseEntry c n.number).2.run more).reverseEntry c' comp.number).1 = .ok (comp', comp'') →
              ((o.reverseEntry c n.number).2.run more).UndoneAs
                (((o.reverseEntry c n.number).2.run more).reverseEntry c' comp.number).2 n src comp comp' := by
  intro o
  have sound := Office.run_wellformed pageSize calls
  have checked := Office.run_entriesChecked pageSize calls
  have found : o.books.named c.tenant n.number = some n := own ▸ sound.named_self member
  refine ⟨Office.reverseEntry_error_iff sound checked member own, ?_, fun src comp reversed => ?_⟩
  · rw [Office.reverseEntry_isOk_iff sound checked member own, own]
  · have first := (Office.reverseEntry_reversedAs sound found own reversed).2.2
    have sound₁ : (o.reverseEntry c n.number).2.books.Wellformed :=
      sound.change (Call.perform_change (.reverseEntry c n.number) o)
    exact ⟨first, fun more c' same comp' comp'' second => first.undone sound₁ own more same second⟩

-- A posted sale whose revenue account is deactivated afterwards cannot be reversed: the reversal
-- is refused, naming that account.
theorem sale_reversal_refused_after_deactivation :
    let o := (Office.start 20).run
      [.registerAccount ⟨"T1", "u1", Timestamp.zero⟩ { code := "1000", name := "Cash", type := "ASSET" },
       .registerAccount ⟨"T1", "u1", Timestamp.zero⟩ { code := "4000", name := "Sales", type := "REVENUE" },
       .createDraft ⟨"T1", "u1", Timestamp.zero⟩
         { lines := [{ code := "1000", debit := ⟨100, 0⟩ }, { code := "4000", credit := ⟨100, 0⟩ }] },
       .postEntry ⟨"T1", "u1", Timestamp.zero⟩ "JE-000001",
       .deactivateAccount ⟨"T1", "u1", Timestamp.zero⟩ "4000"]
    let sale := o.books.entries.headD default
    sale ∈ o.books.entries ∧ sale.tenant = "T1" ∧
      (o.reverseEntry ⟨"T1", "u2", Timestamp.zero⟩ sale.number).1 = .error (.inactive "4000") ∧
      sale.ReversalRefused o.books (.inactive "4000") := by
  intro o sale
  have member : sale ∈ o.books.entries := by decide +kernel
  have own : sale.tenant = "T1" := by decide +kernel
  have refused : (o.reverseEntry ⟨"T1", "u2", Timestamp.zero⟩ sale.number).1 = .error (.inactive "4000") := by
    decide +kernel
  exact ⟨member, own, refused,
    ((reversal_cancels_and_can_be_undone 20 _ ⟨"T1", "u2", Timestamp.zero⟩ member own).1 _).mp refused⟩

end Ledger
