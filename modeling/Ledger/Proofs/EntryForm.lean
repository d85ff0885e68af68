import Mathlib.Tactic.FieldSimp
import Ledger.Proofs.Refusals

-- The form of every stored entry. Drafting and editing store lines that passed the posting
-- rules, with the totals the check returned; posting and reversing store lines that posting
-- checked again, in their own order, since lines numbered from one are already sorted. So every
-- stored entry, whatever its status, has lines that pass the check with its own totals: two
-- lines or more numbered from one, each naming an account with two non-negative amounts in
-- whole cents of which exactly one is non-zero, and debits and credits that sum to the totals,
-- which agree. Such an entry, and the compensation of it, pass the check again.

namespace Ledger

namespace Decimal

-- A decimal needs no more than `n` places exactly when it is a whole number of `10 ^ -n`.
theorem fitsPlaces_iff (d : Decimal) (n : Nat) :
    d.fitsPlaces n = true ↔ ∃ z : ℤ, (10 : ℚ) ^ n * d.value = z := by
  have ten : (10 : ℚ) ≠ 0 := by norm_num
  unfold fitsPlaces truncate
  split
  · rename_i below
    -- the digits past `n` places are cut off; the value is kept exactly when they are zeros
    obtain ⟨k, hk⟩ : ∃ k : Nat, -(n : Int) - d.exp = k := ⟨(-(n : Int) - d.exp).toNat, by omega⟩
    have exponent : d.exp = -(n : Int) - k := by omega
    have cut : d.coeffAt (-(n : Int)) = d.coeff.tdiv (10 ^ k) := by
      have power : Int.pow 10 (-(n : Int) - d.exp).toNat = 10 ^ k := by
        rw [hk, Int.toNat_natCast]
        rfl
      simp only [coeffAt, if_neg (not_le.mpr below), power]
    have scaled : (10 : ℚ) ^ n * d.value = d.coeff / 10 ^ k := by
      simp only [value, exponent, zpow_sub₀ ten, zpow_neg, zpow_natCast]
      field_simp
    rw [sameValue_iff, scaled]
    simp only [value, cut]
    constructor
    · intro same
      refine ⟨d.coeff.tdiv (10 ^ k), ?_⟩
      have truncated : d.value = (d.coeff.tdiv (10 ^ k) : ℚ) * 10 ^ (-(n : Int)) := same
      rw [← scaled, truncated, zpow_neg, zpow_natCast]
      field_simp
    · rintro ⟨z, hz⟩
      have whole : d.coeff = z * 10 ^ k := by
        have : (d.coeff : ℚ) = z * 10 ^ k := by
          rw [← hz]
          field_simp
        exact_mod_cast this
      rw [whole, Int.mul_tdiv_cancel _ (by positivity), exponent, zpow_sub₀ ten]
      push_cast
      simp only [zpow_neg, zpow_natCast]
      field_simp
  · -- no digit past `n` places: the decimal is its own truncation
    refine ⟨fun _ => ?_, fun _ => by simp [sameValue, cmp]⟩
    obtain ⟨k, hk⟩ : ∃ k : Nat, d.exp + n = k := ⟨(d.exp + n).toNat, by omega⟩
    refine ⟨d.coeff * 10 ^ k, ?_⟩
    have exponent : d.exp = k - (n : Int) := by omega
    simp only [value, exponent, zpow_sub₀ ten, zpow_natCast]
    push_cast
    field_simp

end Decimal

theorem Amount.fitsScale_iff (d : Decimal) :
    d.fitsPlaces Amount.scale = true ↔ ∃ z : ℤ, 100 * d.value = z := by
  rw [Decimal.fitsPlaces_iff]
  norm_num [Amount.scale]

theorem Decimal.isNeg_eq_false_iff (d : Decimal) : d.isNeg = false ↔ 0 ≤ d.value := by
  rw [← not_lt, ← Decimal.isNeg_iff]
  simp

-- A line as the posting rules want it: an account code, two non-negative amounts in whole
-- cents, exactly one of them non-zero.
structure Line.WellFormed (l : Line) : Prop where
  code : l.code ≠ ""
  debit : 0 ≤ l.debit.value
  credit : 0 ≤ l.credit.value
  debitCents : ∃ z : ℤ, 100 * l.debit.value = z
  creditCents : ∃ z : ℤ, 100 * l.credit.value = z
  oneSided : Xor (l.debit.value ≠ 0) (l.credit.value ≠ 0)

-- Lines numbered from one in list order.
def NumberedFromOne (lines : List Line) : Prop :=
  lines.map (·.number) = (List.range lines.length).map fun i : Nat => (i : Int) + 1

-- An entry as the journal stores it: two lines or more, numbered from one in list order, each
-- well formed, and totals that are the sums of the debits and of the credits, which agree.
structure Entry.WellFormed (e : Entry) : Prop where
  twoLines : 2 ≤ e.lines.length
  numbered : NumberedFromOne e.lines
  lines : ∀ l ∈ e.lines, l.WellFormed
  totalDebit : e.totalDebit.value = (e.lines.map (·.debit.value)).sum
  totalCredit : e.totalCredit.value = (e.lines.map (·.credit.value)).sum
  balanced : e.totalDebit.value = e.totalCredit.value

-- What the journal keeps true of a stored entry: lines numbered from one that pass the check
-- with the entry's own totals.
structure Entry.Checked (e : Entry) : Prop where
  numbered : NumberedFromOne e.lines
  passes : checkBalance e.lines = .ok (e.totalDebit, e.totalCredit)

section Lines

variable {l : Line}

-- The two zero tests differ exactly when one amount is zero and the other is not.
theorem isZero_ne_iff_xor (l : Line) :
    l.debit.isZero ≠ l.credit.isZero ↔ Xor (l.debit.value ≠ 0) (l.credit.value ≠ 0) := by
  have debitZero := Decimal.isZero_iff l.debit
  have creditZero := Decimal.isZero_iff l.credit
  cases hd : l.debit.isZero <;> cases hc : l.credit.isZero <;> simp_all [Xor]

theorem Line.WellFormed.of_checkLine (checked : checkLine l = .ok ()) : l.WellFormed := by
  obtain ⟨code, debitSign, debitPlaces, creditSign, creditPlaces, oneSided⟩ := checkLine_eq_ok checked
  exact ⟨code, (Decimal.isNeg_eq_false_iff _).mp debitSign, (Decimal.isNeg_eq_false_iff _).mp creditSign,
    (Amount.fitsScale_iff _).mp debitPlaces, (Amount.fitsScale_iff _).mp creditPlaces,
    (isZero_ne_iff_xor l).mp oneSided⟩

theorem Line.WellFormed.checkLine (wf : l.WellFormed) : checkLine l = .ok () := by
  have code : l.code.isEmpty = false := by simpa using wf.code
  have debit : Amount.check "debit amount" l.debit = .ok () :=
    Amount.check_eq_ok.mpr ⟨(Decimal.isNeg_eq_false_iff _).mpr wf.debit,
      (Amount.fitsScale_iff _).mpr wf.debitCents⟩
  have credit : Amount.check "credit amount" l.credit = .ok () :=
    Amount.check_eq_ok.mpr ⟨(Decimal.isNeg_eq_false_iff _).mpr wf.credit,
      (Amount.fitsScale_iff _).mpr wf.creditCents⟩
  have oneSided := (isZero_ne_iff_xor l).mpr wf.oneSided
  unfold Ledger.checkLine
  simp only [code, debit, credit, Bool.false_eq_true, if_false, bind, Except.bind, pure,
    Except.pure]
  simp [oneSided]

-- Exchanging debit and credit, or renumbering, keeps a line well formed.
theorem Line.WellFormed.swap (wf : l.WellFormed) : l.swap.WellFormed :=
  ⟨wf.code, wf.credit, wf.debit, wf.creditCents, wf.debitCents, wf.oneSided.symm⟩

theorem Line.WellFormed.renumber (wf : l.WellFormed) (n : Int) : ({ l with number := n }).WellFormed :=
  ⟨wf.code, wf.debit, wf.credit, wf.debitCents, wf.creditCents, wf.oneSided⟩

end Lines

section Numbering

variable {α β : Type}

-- Lines built from a list, the `i`-th numbered `i + 1`, read back the list where they do not
-- read the number, and are numbered from one.
theorem map_zip_range (xs : List α) (f : Nat × α → Line) (g : Line → β) (h : α → β)
    (reads : ∀ i x, g (f (i, x)) = h x) :
    (((List.range xs.length).zip xs).map f).map g = xs.map h := by
  have snd : ((List.range xs.length).zip xs).map Prod.snd = xs := List.map_snd_zip (by simp)
  calc (((List.range xs.length).zip xs).map f).map g
      = (((List.range xs.length).zip xs).map Prod.snd).map h := by
        rw [List.map_map, List.map_map]
        exact List.map_congr_left fun p _ => reads p.1 p.2
    _ = xs.map h := by rw [snd]

theorem mem_zip_range {xs : List α} {f : Nat × α → Line} {l : Line}
    (member : l ∈ ((List.range xs.length).zip xs).map f) : ∃ i, ∃ x ∈ xs, l = f (i, x) := by
  obtain ⟨⟨i, x⟩, pair, rfl⟩ := List.mem_map.mp member
  exact ⟨i, x, (List.of_mem_zip pair).2, rfl⟩

theorem numberedFromOne_zip_range (xs : List α) (f : Nat × α → Line)
    (numbering : ∀ i x, (f (i, x)).number = i + 1) :
    NumberedFromOne (((List.range xs.length).zip xs).map f) := by
  have fst : ((List.range xs.length).zip xs).map Prod.fst = List.range xs.length :=
    List.map_fst_zip (by simp)
  unfold NumberedFromOne
  rw [List.length_map, List.length_zip, List.length_range, Nat.min_self]
  calc (((List.range xs.length).zip xs).map f).map (·.number)
      = (((List.range xs.length).zip xs).map Prod.fst).map fun i : Nat => (i : Int) + 1 := by
        rw [List.map_map, List.map_map]
        exact List.map_congr_left fun p _ => numbering p.1 p.2
    _ = (List.range xs.length).map fun i : Nat => (i : Int) + 1 := by rw [fst]

theorem NumberedFromOne.sorted {lines : List Line} (numbered : NumberedFromOne lines) :
    lines.Pairwise fun x y => decide (x.number ≤ y.number) = true := by
  have ascending : ((List.range lines.length).map fun i : Nat => (i : Int) + 1).Pairwise (· ≤ ·) := by
    rw [List.pairwise_map]
    exact List.pairwise_lt_range.imp fun lt => by omega
  rw [← numbered, List.pairwise_map] at ascending
  exact ascending.imp fun le => decide_eq_true le

-- Lines numbered from one are already in line-number order, so posting keeps their order.
theorem NumberedFromOne.sortBy_eq {lines : List Line} (numbered : NumberedFromOne lines) :
    sortBy (fun x y => decide (x.number ≤ y.number)) lines = lines :=
  sortBy_of_pairwise _ numbered.sorted

theorem NumberedFromOne.renamed {lines lines' : List Line} (numbered : NumberedFromOne lines)
    (renamed : List.Forall₂ Line.Renamed lines' lines) : NumberedFromOne lines' := by
  unfold NumberedFromOne at numbered ⊢
  rw [renamed_map renamed _ (fun _ _ => rfl), renamed.length_eq, numbered]

theorem buildLines_numberedFromOne (req : EntryRequest) : NumberedFromOne (Office.buildLines req) :=
  numberedFromOne_zip_range _ _ fun _ _ => rfl

theorem compensation_numberedFromOne (c : Ctx) (id number : String) (src : Entry) :
    NumberedFromOne (Office.compensation c id number src).lines :=
  numberedFromOne_zip_range _ _ fun _ _ => rfl

end Numbering

section Checks

variable {α ε : Type}

theorem forM_eq_ok_of_forall {l : List α} {g : α → Except ε Unit} (each : ∀ x ∈ l, g x = .ok ()) :
    l.forM g = .ok () := by
  induction l with
  | nil => rfl
  | cons x rest ih =>
    rw [show (x :: rest).forM g = (g x >>= fun _ => rest.forM g) from rfl, each x List.mem_cons_self,
      ih fun y member => each y (List.mem_cons_of_mem x member)]
    rfl

theorem checkLine_rename (l : Line) (name : String) :
    checkLine { l with accountName := name } = checkLine l := rfl

-- Filling in account names changes nothing the check reads.
theorem forM_checkLine_renamed {lines lines' : List Line}
    (renamed : List.Forall₂ Line.Renamed lines' lines) :
    lines'.forM checkLine = lines.forM checkLine := by
  induction renamed with
  | nil => rfl
  | @cons l' l rest' rest head _ ih =>
    rw [show (l' :: rest').forM checkLine = (checkLine l' >>= fun _ => rest'.forM checkLine) from rfl,
      show (l :: rest).forM checkLine = (checkLine l >>= fun _ => rest.forM checkLine) from rfl, ih,
      head, checkLine_rename]

theorem checkBalance_renamed {lines lines' : List Line}
    (renamed : List.Forall₂ Line.Renamed lines' lines) : checkBalance lines' = checkBalance lines := by
  unfold checkBalance
  rw [renamed.length_eq, forM_checkLine_renamed renamed, renamed_map renamed (·.debit) (fun _ _ => rfl),
    renamed_map renamed (·.credit) (fun _ _ => rfl)]

-- Well-formed lines, two or more, whose debits and credits sum alike pass the check.
theorem checkBalance_of_wellFormed {lines : List Line} (two : 2 ≤ lines.length)
    (each : ∀ l ∈ lines, l.WellFormed)
    (balanced : (lines.map (·.debit.value)).sum = (lines.map (·.credit.value)).sum) :
    checkBalance lines = .ok (sumAmounts (lines.map (·.debit)), sumAmounts (lines.map (·.credit))) := by
  have passed : lines.forM checkLine = .ok () :=
    forM_eq_ok_of_forall fun l member => (each l member).checkLine
  have same : (sumAmounts (lines.map (·.debit))).sameValue (sumAmounts (lines.map (·.credit))) = true := by
    rw [Decimal.sameValue_iff, sumAmounts_value, sumAmounts_value, List.map_map, List.map_map]
    exact balanced
  unfold checkBalance
  simp [Nat.not_lt.mpr two, passed, same, bind, Except.bind, pure, Except.pure]

end Checks

section Entries

variable {e : Entry}

theorem Entry.Checked.wellFormed (checked : e.Checked) : e.WellFormed := by
  obtain ⟨two, debit, credit, balanced⟩ := checkBalance_eq_ok checked.passes
  have debitSum : e.totalDebit.value = (e.lines.map (·.debit.value)).sum := by
    rw [debit, sumAmounts_value, List.map_map]
    rfl
  have creditSum : e.totalCredit.value = (e.lines.map (·.credit.value)).sum := by
    rw [credit, sumAmounts_value, List.map_map]
    rfl
  exact ⟨two, checked.numbered,
    fun l member => .of_checkLine (checkBalance_lines checked.passes l member), debitSum, creditSum,
    balanced⟩

-- Posting lines numbered from one stores them, named, in their order, with the totals the
-- check gave: the posted entry is checked, whatever the draft's totals were.
theorem Entry.Checked.of_postLines {b : Books} {c : Ctx} {e' : Entry}
    {writes : List (String × Decimal)} (numbered : NumberedFromOne e.lines)
    (posted : postLines b c e = .ok (e', writes)) : e'.Checked := by
  have renamed := postLines_renamed posted
  rw [numbered.sortBy_eq] at renamed
  obtain ⟨debit, credit, _, lines, _, checked, _, _, rfl⟩ := postLines_eq_ok posted
  exact ⟨numbered.renamed renamed, (checkBalance_renamed renamed).trans checked⟩

-- The compensation of a well-formed entry exchanges its debits and credits line by line and
-- numbers them from one again, so it passes the check, with the totals exchanged.
theorem Entry.WellFormed.compensation (wf : e.WellFormed) (c : Ctx) (id number : String) :
    ∃ debit credit, checkBalance (Office.compensation c id number e).lines = .ok (debit, credit) ∧
      debit.value = e.totalCredit.value ∧ credit.value = e.totalDebit.value := by
  have debits : (Office.compensation c id number e).lines.map (·.debit.value) =
      e.lines.map (·.credit.value) := map_zip_range _ _ _ _ fun _ _ => rfl
  have credits : (Office.compensation c id number e).lines.map (·.credit.value) =
      e.lines.map (·.debit.value) := map_zip_range _ _ _ _ fun _ _ => rfl
  have two : 2 ≤ (Office.compensation c id number e).lines.length := by
    simpa [Office.compensation] using wf.twoLines
  have each : ∀ l ∈ (Office.compensation c id number e).lines, l.WellFormed := by
    intro l member
    obtain ⟨i, x, source, rfl⟩ := mem_zip_range member
    exact (wf.lines x source).swap.renumber _
  have balanced : ((Office.compensation c id number e).lines.map (·.debit.value)).sum =
      ((Office.compensation c id number e).lines.map (·.credit.value)).sum := by
    rw [debits, credits, ← wf.totalCredit, ← wf.totalDebit, wf.balanced]
  refine ⟨_, _, checkBalance_of_wellFormed two each balanced, ?_, ?_⟩
  · rw [sumAmounts_value, List.map_map, wf.totalCredit, ← debits]
    rfl
  · rw [sumAmounts_value, List.map_map, wf.totalDebit, ← credits]
    rfl

end Entries

-- Every entry of the books is checked.
def Books.EntriesChecked (b : Books) : Prop := ∀ e ∈ b.entries, e.Checked

namespace Books.EntriesChecked

variable {b b' : Books}

theorem of_entries (checked : b.EntriesChecked) (same : b'.entries = b.entries) :
    b'.EntriesChecked := by
  intro e member
  rw [same] at member
  exact checked e member

theorem append (checked : b.EntriesChecked) {e : Entry} (new : e.Checked)
    (entries : b'.entries = b.entries ++ [e]) : b'.EntriesChecked := by
  intro x member
  rw [entries] at member
  rcases List.mem_append.mp member with old | added
  · exact checked x old
  · rw [List.mem_singleton.mp added]
    exact new

theorem replaceEntry (checked : b.EntriesChecked) {e : Entry} (new : e.Checked) :
    (b.replaceEntry e).EntriesChecked := by
  intro x member
  rcases Books.mem_replaceEntry member with rfl | ⟨old, _⟩
  · exact new
  · exact checked x old

theorem removeEntry (checked : b.EntriesChecked) (k : String) : (b.removeEntry k).EntriesChecked := by
  intro x member
  rw [Books.removeEntry_entries] at member
  exact checked x (List.mem_filter.mp member).1

end Books.EntriesChecked

namespace Office

variable {o : Office} {c : Ctx}

-- A draft stores the admitted lines, numbered from one, with the totals the check gave them.
theorem createDraft_checked {req : EntryRequest} {e : Entry}
    (drafted : (o.createDraft c req).1 = .ok e) : e.Checked := by
  obtain ⟨lines, debit, credit, admitted, rfl, -⟩ := createDraft_eq_ok drafted
  obtain ⟨_, rfl, checked⟩ := admitLines_eq_ok admitted
  exact ⟨buildLines_numberedFromOne req, checked⟩

theorem updateDraft_checked {number : Ref} {req : EntryRequest} {e : Entry}
    (updated : (o.updateDraft c number req).1 = .ok e) : e.Checked := by
  revert updated
  unfold updateDraft
  cases admitted : admitLines req with
  | error f =>
    intro updated
    cases updated
  | ok r =>
    obtain ⟨lines, debit, credit⟩ := r
    obtain ⟨_, rfl, checked⟩ := admitLines_eq_ok admitted
    dsimp only
    rw [Books.withinTx_editBody]
    cases Office.checkedEntry o.books c.tenant number (·.status != .draft)
        (fun e => .notDraft e.number e.status .edit) with
    | error f =>
      intro updated
      cases updated
    | ok e0 =>
      intro updated
      cases updated
      exact ⟨buildLines_numberedFromOne req, checked⟩

end Office

-- Every call, failing or not, keeps every stored entry checked. Account calls leave the entries
-- alone; drafting and editing store checked lines; posting and reversing store what posting
-- gave for lines numbered from one; the reversed source keeps its lines and totals.
theorem Books.EntriesChecked.perform {o : Office} (checked : o.books.EntriesChecked) (call : Call) :
    (call.perform o).2.books.EntriesChecked := by
  cases call with
  | registerAccount c req =>
    simp only [Call.perform, Call.settle_snd]
    cases opened : (o.registerAccount c req).1 with
    | error f => exact checked.of_entries (by rw [(Office.registerAccount_error opened).1])
    | ok a =>
      obtain ⟨_, _, _, _, _, _, books, _⟩ := Office.registerAccount_ok opened
      exact checked.of_entries (by rw [books])
  | updateAccount c code patch =>
    simp only [Call.perform, Call.settle_snd]
    cases changed : (o.updateAccount c code patch).1 with
    | error f => rw [Office.updateAccount_error changed]; exact checked
    | ok a =>
      obtain ⟨books, ⟨_, _, rfl⟩, same⟩ := Office.updateAccount_ok changed
      rw [same]
      exact checked.of_entries rfl
  | deactivateAccount c code =>
    simp only [Call.perform]
    cases done : (o.deactivateAccount c code).1 with
    | error f => rw [Office.deactivateAccount_error done]; exact checked
    | ok u =>
      obtain ⟨books, ⟨_, _, rfl⟩, same⟩ := Office.deactivateAccount_ok done
      rw [same]
      exact checked.of_entries rfl
  | createDraft c req =>
    simp only [Call.perform, Call.settle_snd]
    cases drafted : (o.createDraft c req).1 with
    | error f =>
      rcases Office.createDraft_error drafted with same | ⟨_, _, same⟩
      · rw [same]; exact checked
      · rw [same]; exact checked.of_entries (Books.nextNumber_entries ..)
    | ok e =>
      obtain ⟨_, _, _, _, _, _, _, books, _⟩ := Office.createDraft_ok drafted
      exact checked.append (Office.createDraft_checked drafted) (by rw [books])
  | updateDraft c number req =>
    simp only [Call.perform, Call.settle_snd]
    cases updated : (o.updateDraft c number req).1 with
    | error f => rw [Office.updateDraft_error updated]; exact checked
    | ok e =>
      obtain ⟨_, _, _, _, _, _, _, _, same⟩ := Office.updateDraft_ok updated
      rw [same]
      exact checked.replaceEntry (Office.updateDraft_checked updated)
  | discardDraft c number =>
    simp only [Call.perform]
    cases done : (o.discardDraft c number).1 with
    | error f => rw [Office.discardDraft_error done]; exact checked
    | ok u =>
      obtain ⟨e0, _, _, _, same⟩ := Office.discardDraft_ok done
      rw [same]
      exact checked.removeEntry e0.key
  | postEntry c number =>
    simp only [Call.perform, Call.settle_snd]
    cases posted : (o.postEntry c number).1 with
    | error f => rw [Office.postEntry_error posted]; exact checked
    | ok e =>
      obtain ⟨e0, member, _, _, writes, posting, books⟩ := Office.postEntry_ok posted
      rw [books]
      exact (checked.of_entries (Books.applyWrites_entries ..)).replaceEntry
        (.of_postLines (checked e0 member).numbered posting)
  | reverseEntry c number =>
    simp only [Call.perform, Call.settle_snd]
    cases reversed : (o.reverseEntry c number).1 with
    | error f => exact checked.of_entries (by rw [(Office.reverseEntry_error reversed).1]; rfl)
    | ok pair =>
      obtain ⟨src', comp⟩ := pair
      obtain ⟨src, member, _, _, _, id, writes, b', posting, stored, rfl, books⟩ :=
        Office.reverseEntry_ok reversed
      rw [books]
      -- the source keeps its lines and totals; the compensation is posted from lines numbered
      -- from one
      have source : src.Checked := checked src member
      exact (checked.append (.of_postLines (compensation_numberedFromOne ..) posting)
        (Books.addEntry_after_writes stored).1).replaceEntry ⟨source.numbered, source.passes⟩

theorem Office.run_entriesChecked (pageSize : Nat) (calls : List Call) :
    ((Office.start pageSize).run calls).books.EntriesChecked :=
  Office.run_invariant (fun o => o.books.EntriesChecked) (fun _ call checked => checked.perform call)
    (fun _ member => by simp at member) calls

-- Every entry a session stores, whatever its status, is well formed and balanced, passes the
-- posting check with its own totals, and so does the compensation of it: the check inside
-- posting never refuses a stored draft or a compensating entry.
theorem stored_entries_well_formed (pageSize : Nat) (calls : List Call) :
    ∀ e ∈ ((Office.start pageSize).run calls).books.entries,
      e.WellFormed ∧ checkBalance e.lines = .ok (e.totalDebit, e.totalCredit) ∧
        ∀ c id number, ∃ debit credit,
          checkBalance (Office.compensation c id number e).lines = .ok (debit, credit) ∧
            debit.value = e.totalCredit.value ∧ credit.value = e.totalDebit.value := by
  intro e member
  have checked := Office.run_entriesChecked pageSize calls e member
  exact ⟨checked.wellFormed, checked.passes, checked.wellFormed.compensation⟩

-- A posted sale, reversed: the compensating entry is stored well formed, and reversing it in
-- turn would pass the check with its totals exchanged back.
theorem reversed_sale_compensation_well_formed :
    let b := ((Office.start 20).run
      [.registerAccount ⟨"T1", "u1", Timestamp.zero⟩ { code := "1000", name := "Cash", type := "ASSET" },
       .registerAccount ⟨"T1", "u1", Timestamp.zero⟩ { code := "4000", name := "Sales", type := "REVENUE" },
       .createDraft ⟨"T1", "u1", Timestamp.zero⟩
         { lines := [{ code := "1000", debit := ⟨100, 0⟩ }, { code := "4000", credit := ⟨100, 0⟩ }] },
       .postEntry ⟨"T1", "u1", Timestamp.zero⟩ "JE-000001",
       .reverseEntry ⟨"T1", "u2", Timestamp.zero⟩ "JE-000001"]).books
    let comp := b.entries.getLastD default
    comp ∈ b.entries ∧ comp.number = "RV-000001" ∧ comp.WellFormed ∧
      ∃ debit credit, checkBalance (Office.compensation ⟨"T1", "u3", Timestamp.zero⟩ "again"
        "RV-000002" comp).lines = .ok (debit, credit) ∧
          debit.value = comp.totalCredit.value ∧ credit.value = comp.totalDebit.value := by
  intro b comp
  have member : comp ∈ b.entries := by decide +kernel
  obtain ⟨wf, _, again⟩ := stored_entries_well_formed 20 _ comp member
  exact ⟨member, by decide +kernel, wf, again _ _ _⟩

end Ledger
