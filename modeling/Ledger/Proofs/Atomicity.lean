import Ledger.Proofs.Wellformed

-- Failing calls store nothing. A failure leaves every account, every entry, the identifier
-- indexes, the posting order and the announced events as they were: a journal service that
-- fails inside its transaction has its staged writes dropped, and its commit checks before it
-- writes. The one trace a failure can leave is a number: a reversal issues its number before
-- it reads the source, so a failing reversal has used one up. A draft issues its number only
-- once the request is admitted, and in a reachable state that number is free, so a failing
-- draft has used none.

namespace Ledger

-- The sequence a failing call still advances.
def Call.failureSequence : Call → Option (String × String)
  | .reverseEntry c _ => some (c.tenant, "RV")
  | _ => none

-- A failing call leaves the events alone and the books as they were, but for the number a
-- failing reversal issued.
theorem Call.perform_error {o : Office} (sound : o.books.Wellformed) {call : Call} {f : Fault}
    (failed : (call.perform o).1 = .error f) :
    (call.perform o).2.events = o.events ∧
      (call.perform o).2.books =
        call.failureSequence.elim o.books fun sequence => (o.books.nextNumber sequence.1 sequence.2).2 := by
  cases call with
  | registerAccount c req =>
    obtain ⟨books, events⟩ := Office.registerAccount_error (Call.settle_error.mp failed)
    exact ⟨events, books⟩
  | updateAccount c code patch =>
    have same := Office.updateAccount_error (Call.settle_error.mp failed)
    exact ⟨congrArg Office.events same, congrArg Office.books same⟩
  | deactivateAccount c code =>
    have same := Office.deactivateAccount_error failed
    exact ⟨congrArg Office.events same, congrArg Office.books same⟩
  | createDraft c req =>
    rcases Office.createDraft_error (Call.settle_error.mp failed) with same | ⟨valid, taken, _⟩
    · exact ⟨congrArg Office.events same, congrArg Office.books same⟩
    · -- the number a draft would take is free in a reachable state
      rw [sound.fresh (voucherPrefix_barFree valid) c.tenant] at taken
      cases taken
  | updateDraft c number req =>
    have same := Office.updateDraft_error (Call.settle_error.mp failed)
    exact ⟨congrArg Office.events same, congrArg Office.books same⟩
  | discardDraft c number =>
    have same := Office.discardDraft_error failed
    exact ⟨congrArg Office.events same, congrArg Office.books same⟩
  | postEntry c number =>
    have same := Office.postEntry_error (Call.settle_error.mp failed)
    exact ⟨congrArg Office.events same, congrArg Office.books same⟩
  | reverseEntry c number =>
    obtain ⟨books, events⟩ := Office.reverseEntry_error (Call.settle_error.mp failed)
    exact ⟨events, books⟩

-- The office after a call stores what the office before it stored: the same accounts and
-- entries, the same identifier indexes, posting order and posting counter, the same events, and
-- the same last numbers but for one more under the key of the sequence named.
def Office.StoresAsBefore (after before : Office) (advanced : Option (String × String)) : Prop :=
  after.books.accounts = before.books.accounts ∧ after.books.accountIDs = before.books.accountIDs ∧
    after.books.entries = before.books.entries ∧ after.books.entryIDs = before.books.entryIDs ∧
    after.books.postOrder = before.books.postOrder ∧ after.books.postSeq = before.books.postSeq ∧
    after.events = before.events ∧
    ∀ tenant pfx, after.books.lastNumber tenant pfx =
      if advanced.map (fun s => sequenceKey s.1 s.2) = some (sequenceKey tenant pfx) then
        before.books.lastNumber tenant pfx + 1
      else before.books.lastNumber tenant pfx

-- In every state a session reaches, a failing call stores nothing and advances no number
-- sequence but the reversal sequence of the caller's tenant, which a failing reversal
-- advances by one.
theorem failing_call_stores_nothing (pageSize : Nat) (calls : List Call) (call : Call) {f : Fault}
    (failed : (call.perform ((Office.start pageSize).run calls)).1 = .error f) :
    Office.StoresAsBefore (call.perform ((Office.start pageSize).run calls)).2
      ((Office.start pageSize).run calls) call.failureSequence := by
  have sound := Office.run_wellformed pageSize calls
  generalize (Office.start pageSize).run calls = o at sound failed ⊢
  obtain ⟨events, books⟩ := Call.perform_error sound failed
  unfold Office.StoresAsBefore
  rw [books, events]
  cases sequence : call.failureSequence with
  | none => simp
  | some issued =>
    obtain ⟨t, p⟩ := issued
    refine ⟨rfl, rfl, rfl, rfl, rfl, rfl, rfl, fun tenant pfx => ?_⟩
    simp only [Option.elim, Option.map_some, Option.some.injEq, Books.lastNumber_nextNumber]
    by_cases same : sequenceKey tenant pfx = sequenceKey t p
    · -- one key, one sequence: the number read under either name is the same
      rw [if_pos same, if_pos same.symm]
      simp only [Books.lastNumber, same]
    · rw [if_neg same, if_neg (Ne.symm same)]

-- Reversing a number nobody issued, first thing in a session: the call fails, stores nothing
-- and uses up the tenant's first reversal number.
theorem reversing_unknown_entry_uses_number :
    (Call.perform (.reverseEntry ⟨"T1", "u1", Timestamp.zero⟩ "JE-000001")
        ((Office.start 20).run [])).1 = .error (.entryMissing "JE-000001") ∧
      Office.StoresAsBefore
        (Call.perform (.reverseEntry ⟨"T1", "u1", Timestamp.zero⟩ "JE-000001")
          ((Office.start 20).run [])).2
        ((Office.start 20).run []) (some ("T1", "RV")) :=
  ⟨rfl, failing_call_stores_nothing 20 [] _ rfl⟩

end Ledger
