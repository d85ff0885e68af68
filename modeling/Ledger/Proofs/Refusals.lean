import Ledger.Proofs.Wellformed

-- Where the journal refuses. Checking lines refuses with a line, a line count or totals; taking
-- accounts refuses an unknown, foreign or inactive account; a lookup by number refuses a
-- missing or foreign entry. Applying lines that passed the line check to accounts that were
-- taken never fails, so a posting fails only in its checks and never on a line's account or
-- amounts. In a reachable state a reversal's number is free, so a reversal, too, fails only in
-- its checks.

namespace Ledger

section Traversal

variable {α β ε : Type}

theorem forM_eq_error {l : List α} {g : α → Except ε Unit} {e : ε} (refused : l.forM g = .error e) :
    ∃ x ∈ l, g x = .error e := by
  induction l with
  | nil => cases refused
  | cons x rest ih =>
    rw [show (x :: rest).forM g = (g x >>= fun _ => rest.forM g) from rfl] at refused
    cases gx : g x with
    | error e' =>
      simp only [gx, bind, Except.bind] at refused
      exact ⟨x, List.mem_cons_self, gx.trans refused⟩
    | ok u =>
      simp only [gx, bind, Except.bind] at refused
      obtain ⟨y, member, gy⟩ := ih refused
      exact ⟨y, List.mem_cons_of_mem x member, gy⟩

theorem forM_eq_ok {l : List α} {g : α → Except ε Unit} (passed : l.forM g = .ok ()) :
    ∀ x ∈ l, g x = .ok () := by
  induction l with
  | nil => simp
  | cons x rest ih =>
    rw [show (x :: rest).forM g = (g x >>= fun _ => rest.forM g) from rfl] at passed
    cases gx : g x with
    | error e => simp only [gx, bind, Except.bind] at passed; cases passed
    | ok u =>
      simp only [gx, bind, Except.bind] at passed
      intro y member
      rcases List.mem_cons.mp member with rfl | later
      · exact gx
      · exact ih passed y later

theorem mapM_eq_error {l : List α} {g : α → Except ε β} {e : ε} (refused : l.mapM g = .error e) :
    ∃ x ∈ l, g x = .error e := by
  induction l with
  | nil => cases refused
  | cons x rest ih =>
    rw [List.mapM_cons] at refused
    cases gx : g x with
    | error e' =>
      simp only [gx, bind, Except.bind] at refused
      obtain rfl := Except.error.inj refused
      exact ⟨x, List.mem_cons_self, gx⟩
    | ok y =>
      cases grest : rest.mapM g with
      | error e' =>
        simp only [gx, grest, bind, Except.bind] at refused
        obtain ⟨z, member, gz⟩ := ih (grest.trans refused)
        exact ⟨z, List.mem_cons_of_mem x member, gz⟩
      | ok ys => simp [gx, grest, bind, Except.bind, pure, Except.pure] at refused

end Traversal

-- An amount passes its check whatever field the check names.
theorem Amount.check_eq_ok {field : String} {d : Decimal} :
    Amount.check field d = .ok () ↔ d.isNeg = false ∧ d.fitsPlaces Amount.scale = true := by
  unfold Amount.check
  by_cases negative : d.isNeg = true
  · simp [negative]
  · by_cases fits : d.fitsPlaces Amount.scale = true
    · simp [negative, fits]
    · simp [negative, fits]

-- What a line that passes its check carries: an account code, two acceptable amounts, and
-- exactly one of them non-zero.
theorem checkLine_eq_ok {l : Line} (checked : checkLine l = .ok ()) :
    l.code ≠ "" ∧ l.debit.isNeg = false ∧ l.debit.fitsPlaces Amount.scale = true ∧
      l.credit.isNeg = false ∧ l.credit.fitsPlaces Amount.scale = true ∧
      l.debit.isZero ≠ l.credit.isZero := by
  unfold checkLine at checked
  by_cases empty : l.code.isEmpty = true
  · simp [empty, throw, throwThe, MonadExceptOf.throw, bind, Except.bind] at checked
  · simp only [empty, Bool.false_eq_true, if_false, bind, Except.bind, pure, Except.pure] at checked
    cases debit : Amount.check "debit amount" l.debit with
    | error p => simp [debit, throw, throwThe, MonadExceptOf.throw] at checked
    | ok u =>
      cases credit : Amount.check "credit amount" l.credit with
      | error p => simp [debit, credit, throw, throwThe, MonadExceptOf.throw] at checked
      | ok v =>
        have oneSided : l.debit.isZero ≠ l.credit.isZero := by
          intro same
          simp [debit, credit, same, throw, throwThe, MonadExceptOf.throw] at checked
        obtain ⟨debitSign, debitPlaces⟩ := Amount.check_eq_ok.mp debit
        obtain ⟨creditSign, creditPlaces⟩ := Amount.check_eq_ok.mp credit
        refine ⟨fun named => empty (by simp [named]), debitSign, debitPlaces, creditSign,
          creditPlaces, oneSided⟩

theorem checkLine_eq_error {l : Line} {f : Fault} (refused : checkLine l = .error f) :
    ∃ p, f = .line l.number p := by
  unfold checkLine at refused
  by_cases empty : l.code.isEmpty = true
  · simp only [empty, if_true, throw, throwThe, MonadExceptOf.throw, bind, Except.bind] at refused
    exact ⟨_, (Except.error.inj refused).symm⟩
  · simp only [empty, Bool.false_eq_true, if_false, bind, Except.bind, pure, Except.pure] at refused
    cases debit : Amount.check "debit amount" l.debit with
    | error p =>
      simp only [debit, throw, throwThe, MonadExceptOf.throw] at refused
      exact ⟨_, (Except.error.inj refused).symm⟩
    | ok u =>
      cases credit : Amount.check "credit amount" l.credit with
      | error p =>
        simp only [debit, credit, throw, throwThe, MonadExceptOf.throw] at refused
        exact ⟨_, (Except.error.inj refused).symm⟩
      | ok v =>
        simp only [debit, credit] at refused
        split at refused
        · simp only [throw, throwThe, MonadExceptOf.throw] at refused
          exact ⟨_, (Except.error.inj refused).symm⟩
        · cases refused

-- Checked lines pass the line check one by one.
theorem checkBalance_lines {lines : List Line} {totals : Decimal × Decimal}
    (checked : checkBalance lines = .ok totals) : ∀ l ∈ lines, checkLine l = .ok () := by
  unfold checkBalance at checked
  by_cases few : lines.length < 2
  · simp [few, throw, throwThe, MonadExceptOf.throw, bind, Except.bind] at checked
  · simp only [few, if_false, bind, Except.bind, pure, Except.pure] at checked
    cases passed : lines.forM checkLine with
    | error f => rw [passed] at checked; cases checked
    | ok u => exact forM_eq_ok passed

-- The line check refuses too few lines, a bad line, or unequal totals.
theorem checkBalance_eq_error {lines : List Line} {f : Fault} (refused : checkBalance lines = .error f) :
    f = .tooFewLines lines.length ∨ (∃ l ∈ lines, ∃ p, f = .line l.number p) ∨
      ∃ debit credit, f = .unbalanced debit credit := by
  unfold checkBalance at refused
  by_cases few : lines.length < 2
  · simp only [few, if_true, throw, throwThe, MonadExceptOf.throw, bind, Except.bind] at refused
    exact .inl (Except.error.inj refused).symm
  · simp only [few, if_false, bind, Except.bind, pure, Except.pure] at refused
    cases passed : lines.forM checkLine with
    | error f' =>
      rw [passed] at refused
      obtain ⟨l, member, bad⟩ := forM_eq_error passed
      obtain ⟨p, rfl⟩ := checkLine_eq_error bad
      exact .inr (.inl ⟨l, member, p, (Except.error.inj refused).symm⟩)
    | ok u =>
      simp only [passed] at refused
      split at refused
      · simp only [throw, throwThe, MonadExceptOf.throw] at refused
        exact .inr (.inr ⟨_, _, (Except.error.inj refused).symm⟩)
      · cases refused

-- Taking accounts refuses a code with no account, an account of another tenant, or an
-- inactive one.
theorem holdAccounts_eq_error {b : Books} {tenant : String} {codes : List String} {f : Fault}
    (refused : b.holdAccounts tenant codes = .error f) :
    ∃ code, f = .unknownLineAccount code ∨ f = .foreignAccount code ∨ f = .inactive code := by
  unfold Books.holdAccounts at refused
  obtain ⟨code, _, taken⟩ := mapM_eq_error refused
  refine ⟨code, ?_⟩
  split at taken
  · exact .inl (Except.error.inj taken).symm
  · split at taken
    · exact .inr (.inl (Except.error.inj taken).symm)
    · split at taken
      · exact .inr (.inr (Except.error.inj taken).symm)
      · cases taken

-- Lines whose codes are held by active accounts and whose amounts are acceptable apply without
-- failing. Induction over the lines; what carries it is that applying a line keeps every
-- held account held and active.
theorem applyLines_eq_ok (tenant : String) (c : Ctx) :
    ∀ (lines : List Line) (held : Held),
      (∀ l ∈ lines, ∃ a, held.lookup l.code = some a ∧ a.active = true) →
      (∀ l ∈ lines, checkLine l = .ok ()) →
      ∃ r, applyLines tenant c lines held = .ok r
  | [], held, _, _ => ⟨_, rfl⟩
  | l :: rest, held, active, checked => by
    obtain ⟨a, found, live⟩ := active l List.mem_cons_self
    obtain ⟨_, debitSign, debitPlaces, creditSign, creditPlaces, _⟩ :=
      checkLine_eq_ok (checked l List.mem_cons_self)
    have debit : Amount.check "debit" l.debit = .ok () := Amount.check_eq_ok.mpr ⟨debitSign, debitPlaces⟩
    have credit : Amount.check "credit" l.credit = .ok () := Amount.check_eq_ok.mpr ⟨creditSign, creditPlaces⟩
    have stillActive : ∀ l' ∈ rest, ∃ x, (held.map fun h => if h.1 == l.code then
        (l.code, { a with
          balance := a.balance + signedDelta a.side l.debit l.credit,
          audit := a.audit.touch c.user c.now }) else h).lookup l'.code = some x ∧
        x.active = true := by
      intro l' member
      rw [lookup_replace found]
      split
      · exact ⟨_, rfl, live⟩
      · exact active l' (List.mem_cons_of_mem l member)
    obtain ⟨r, applied⟩ := applyLines_eq_ok tenant c rest _ stillActive
      (fun l' member => checked l' (List.mem_cons_of_mem l member))
    simp only [applyLines, applyPosting, found, live, debit, credit, Bool.not_true,
      Bool.false_eq_true, if_false]
    simp only [live] at applied
    rw [applied]
    exact ⟨_, rfl⟩

-- Lines that passed the check and whose accounts were taken apply without failing, so the
-- posting goes through.
theorem postLines_isOk_of_held {b : Books} {c : Ctx} {e : Entry} {totals : Decimal × Decimal}
    {held : Held} (checked : checkBalance e.lines = .ok totals)
    (hold : b.holdAccounts e.tenant e.codes = .ok held) : ∃ r, postLines b c e = .ok r := by
  have ordered := sortBy_perm (fun x y => decide (x.number ≤ y.number)) e.lines
  obtain ⟨r, applied⟩ := applyLines_eq_ok e.tenant c
    (sortBy (fun x y => decide (x.number ≤ y.number)) e.lines) held
    (fun l member => by
      have taken := holdAccounts_covers hold (Entry.mem_codes.mpr ⟨l, ordered.mem_iff.mp member, rfl⟩)
      obtain ⟨a, found⟩ := Option.isSome_iff_exists.mp taken
      exact ⟨a, found, (holdAccounts_lookup hold found).2.2⟩)
    (fun l member => checkBalance_lines checked l (ordered.mem_iff.mp member))
  unfold postLines
  simp only [checked, hold, applied, bind, Except.bind, pure, Except.pure]
  exact ⟨_, rfl⟩

-- A posting fails only in its checks: the line check, or taking the accounts.
theorem postLines_eq_error {b : Books} {c : Ctx} {e : Entry} {f : Fault}
    (refused : postLines b c e = .error f) :
    checkBalance e.lines = .error f ∨
      ∃ totals, checkBalance e.lines = .ok totals ∧ b.holdAccounts e.tenant e.codes = .error f := by
  cases checked : checkBalance e.lines with
  | error f' =>
    unfold postLines at refused
    rw [checked] at refused
    exact .inl (congrArg _ (Except.error.inj refused))
  | ok totals =>
    cases hold : b.holdAccounts e.tenant e.codes with
    | error f' =>
      unfold postLines at refused
      rw [checked, hold] at refused
      exact .inr ⟨totals, rfl, congrArg _ (Except.error.inj refused)⟩
    | ok held =>
      -- both checks passed, so applying the lines cannot fail
      obtain ⟨r, posted⟩ := postLines_isOk_of_held (c := c) checked hold
      rw [posted] at refused
      cases refused

-- Of lines that pass the check, a posting is refused exactly as taking their accounts is.
theorem postLines_eq_error_iff {b : Books} {c : Ctx} {e : Entry} {f : Fault}
    {totals : Decimal × Decimal} (checked : checkBalance e.lines = .ok totals) :
    postLines b c e = .error f ↔ b.holdAccounts e.tenant e.codes = .error f := by
  constructor
  · intro refused
    rcases postLines_eq_error refused with unchecked | ⟨_, _, hold⟩
    · rw [checked] at unchecked
      cases unchecked
    · exact hold
  · intro hold
    unfold postLines
    simp [checked, hold, bind, Except.bind]

theorem Office.entryByNumber_eq_error {b : Books} {tenant : String} {number : Ref} {f : Fault}
    (refused : Office.entryByNumber b tenant number = .error f) :
    f = .entryMissing number.text ∨ f = .foreignEntry number.text := by
  unfold Office.entryByNumber at refused
  split at refused
  · exact .inl (Except.error.inj refused).symm
  · split at refused
    · exact .inr (Except.error.inj refused).symm
    · cases refused

-- The source of a reversal is refused only when it is missing or foreign, reversed already or
-- not posted yet.
theorem Office.sourcePlan_eq_error {b : Books} {c : Ctx} {number : Ref} {f : Fault}
    (refused : Office.sourcePlan b c number = .error f) :
    (f = .entryMissing number.text ∨ f = .foreignEntry number.text) ∨
      (∃ n r, f = .alreadyReversed n r) ∨ (∃ n s, f = .notPostedYet n s) := by
  unfold Office.sourcePlan Office.checkedEntry at refused
  cases found : Office.entryByNumber b c.tenant number with
  | error f' =>
    simp only [found, bind, Except.bind, Except.error.injEq] at refused
    subst refused
    exact .inl (Office.entryByNumber_eq_error found)
  | ok src =>
    simp only [found, bind, Except.bind] at refused
    by_cases reversed : (src.status == .reversed || !src.reversedBy.isEmpty) = true
    · simp only [reversed, ↓reduceIte, throw, throwThe, MonadExceptOf.throw, Except.error.injEq] at refused
      exact .inr (.inl ⟨_, _, refused.symm⟩)
    · simp only [reversed, Bool.false_eq_true, ↓reduceIte, pure, Except.pure] at refused
      by_cases early : (src.status != .posted) = true
      · simp only [early, ↓reduceIte, Except.error.injEq] at refused
        exact .inr (.inr ⟨_, _, refused.symm⟩)
      · simp [early] at refused

-- In a reachable state a reversal fails only in its checks: finding the source, the source's
-- status, checking the compensating lines or taking their accounts. The number it issued is
-- free, so storing the compensating entry never meets a taken number.
theorem Office.reverseEntry_eq_error {o : Office} (sound : o.books.Wellformed) {c : Ctx}
    {number : Ref} {f : Fault} (failed : (o.reverseEntry c number).1 = .error f) :
    (f = .entryMissing number.text ∨ f = .foreignEntry number.text) ∨
      (∃ n r, f = .alreadyReversed n r) ∨ (∃ n s, f = .notPostedYet n s) ∨
      (∃ lines : List Line, checkBalance lines = .error f) ∨
      ∃ code, f = .unknownLineAccount code ∨ f = .foreignAccount code ∨ f = .inactive code := by
  revert failed
  unfold reverseEntry
  simp only [freshId]
  rw [Books.withinTxAfter_reversal]
  cases planned : sourcePlan (o.books.nextNumber c.tenant "RV").2 c number with
  | error f' =>
    intro failed
    cases failed
    rcases sourcePlan_eq_error planned with found | reversed | posted
    · exact .inl found
    · exact .inr (.inl reversed)
    · exact .inr (.inr (.inl posted))
  | ok src =>
    dsimp only
    cases posted : postLines (o.books.nextNumber c.tenant "RV").2 c
        (compensation c (o.ids (o.issued + 1)) (entryNumber "RV" (o.books.nextNumber c.tenant "RV").1) src) with
    | error f' =>
      intro failed
      cases failed
      rcases postLines_eq_error posted with checked | ⟨_, _, hold⟩
      · exact .inr (.inr (.inr (.inl ⟨_, checked⟩)))
      · exact .inr (.inr (.inr (.inr (holdAccounts_eq_error hold))))
    | ok r =>
      obtain ⟨comp, writes⟩ := r
      dsimp only
      -- the compensation is stored under the number just issued, which no entry has
      obtain ⟨compTenant, compNumber, _⟩ := postLines_fields posted
      have free : Books.entry? ((o.books.nextNumber c.tenant "RV").2.applyWrites writes c.user
          c.now) comp.key = none := by
        have fresh := sound.fresh barFree_reversal c.tenant
        simp only [Entry.key, compTenant, compNumber, compensation, Books.nextNumber_fst]
        simpa [Books.entry?, Books.applyWrites_entries] using fresh
      cases added : ((o.books.nextNumber c.tenant "RV").2.applyWrites writes c.user c.now).addEntry
          comp with
      | error f'' =>
        have taken := Books.addEntry_eq_error added
        rw [free] at taken
        cases taken
      | ok books =>
        intro failed
        cases failed

end Ledger
