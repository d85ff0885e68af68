import Ledger.Proofs.Refusals

-- Entry numbers over a session. A number is drawn from the sequence of a tenant and a prefix: a
-- draft draws from its voucher's sequence once the tenant is given and the request is admitted,
-- and a reversal draws from its tenant's reversal sequence before it checks anything. Each draw
-- advances its sequence by one, so the last number of a sequence counts its draws, and the
-- entry a draw creates carries that count. No two entries a session creates, whether still
-- stored or discarded since, share a number in a tenant, and storing a new entry never meets a
-- taken number.

namespace Ledger

namespace Call

-- The sequence a call draws a number from, if it draws one.
def draws : Call → Option (String × String)
  | createDraft c req =>
    if c.tenant.isEmpty then none
    else match Office.admitLines req with
      | .ok _ => some (c.tenant, Office.voucherPrefix req.voucher)
      | .error _ => none
  | reverseEntry c _ => some (c.tenant, "RV")
  | _ => none

-- The entry a call creates: the draft it stores, or the compensating entry of a reversal.
def creates : Call → Office → Option Entry
  | createDraft c req, o =>
    match (o.createDraft c req).1 with
    | .ok e => some e
    | .error _ => none
  | reverseEntry c number, o =>
    match (o.reverseEntry c number).1 with
    | .ok (_, comp) => some comp
    | .error _ => none
  | _, _ => none

end Call

-- The entries the calls of a session create, in order.
def Office.created : Office → List Call → List Entry
  | _, [] => []
  | o, call :: calls => (call.creates o).toList ++ Office.created (call.perform o).2 calls

namespace Office

variable {o : Office} {c : Ctx}

-- A draft that draws no number is refused before anything is issued.
theorem createDraft_undrawn {req : EntryRequest} (undrawn : (Call.createDraft c req).draws = none) :
    ∃ f, o.createDraft c req = (.error f, o) := by
  unfold createDraft
  simp only [Call.draws] at undrawn
  by_cases empty : c.tenant.isEmpty = true
  · exact ⟨.tenantRequired, by simp [empty, throw, throwThe, MonadExceptOf.throw, bind, Except.bind]⟩
  · simp only [empty] at undrawn
    cases admitted : admitLines req with
    | ok r => simp [admitted] at undrawn
    | error f => exact ⟨f, by simp [empty]⟩

-- A draft that draws a number draws it from its voucher's sequence in the caller's tenant,
-- issues it whether the draft is then stored or not, and stores the draft when the number is
-- free.
theorem createDraft_drawn {req : EntryRequest} {t p : String}
    (drawn : (Call.createDraft c req).draws = some (t, p)) :
    t = c.tenant ∧ p = voucherPrefix req.voucher ∧ BarFree p ∧
      (o.createDraft c req).2.books.sequences = (o.books.nextNumber t p).2.sequences ∧
      (o.books.entry? (entryKey t (entryNumber p (o.books.lastNumber t p + 1))) = none →
        ∃ e, (o.createDraft c req).1 = .ok e) := by
  simp only [Call.draws] at drawn
  by_cases empty : c.tenant.isEmpty = true
  · simp [empty] at drawn
  · cases admitted : admitLines req with
    | error f => simp [empty, admitted] at drawn
    | ok r =>
      obtain ⟨lines, debit, credit⟩ := r
      simp only [empty, admitted, Bool.false_eq_true, if_false, Option.some.injEq,
        Prod.mk.injEq] at drawn
      obtain ⟨rfl, rfl⟩ := drawn
      refine ⟨rfl, rfl, voucherPrefix_barFree (admitLines_eq_ok admitted).1, ?_, fun free => ?_⟩
      all_goals
        unfold createDraft
        simp only [empty, admitted, Bool.false_eq_true, if_false, freshId]
      · split
        · rfl
        · rename_i books added
          exact Books.addEntry_sequences added
      · split
        · rename_i f refused
          have taken := Books.addEntry_eq_error refused
          simp only [Entry.key, Books.nextNumber_entry?, Books.nextNumber_fst, free] at taken
          cases taken
        · exact ⟨_, rfl⟩

-- A reversal issues its number whatever becomes of it.
theorem reverseEntry_sequences (number : Ref) :
    (o.reverseEntry c number).2.books.sequences = (o.books.nextNumber c.tenant "RV").2.sequences := by
  cases reversed : (o.reverseEntry c number).1 with
  | error f => rw [(reverseEntry_error reversed).1]
  | ok pair =>
    obtain ⟨src', comp⟩ := pair
    obtain ⟨_, _, _, _, _, _, writes, b', _, stored, _, books⟩ := reverseEntry_ok reversed
    rw [books, Books.replaceEntry_sequences, Books.addEntry_sequences stored,
      Books.applyWrites_sequences]

end Office

-- What a call does to the number sequences: it advances the one it draws from, if any, and
-- leaves the others alone, whether it succeeds or fails.
theorem Call.perform_sequences (call : Call) (o : Office) :
    (call.perform o).2.books.sequences =
      call.draws.elim o.books.sequences fun d => (o.books.nextNumber d.1 d.2).2.sequences := by
  cases call with
  | registerAccount c req =>
    simp only [Call.perform, Call.settle_snd, Call.draws, Option.elim]
    cases opened : (o.registerAccount c req).1 with
    | error f => rw [(Office.registerAccount_error opened).1]
    | ok a => rw [(Office.registerAccount_ok opened).2.2.2.2.2.2.1]
  | updateAccount c code patch =>
    simp only [Call.perform, Call.settle_snd, Call.draws, Option.elim]
    cases changed : (o.updateAccount c code patch).1 with
    | error f => rw [Office.updateAccount_error changed]
    | ok a =>
      obtain ⟨books, ⟨_, _, rfl⟩, same⟩ := Office.updateAccount_ok changed
      rw [same]
  | deactivateAccount c code =>
    simp only [Call.perform, Call.draws, Option.elim]
    cases done : (o.deactivateAccount c code).1 with
    | error f => rw [Office.deactivateAccount_error done]
    | ok u =>
      obtain ⟨books, ⟨_, _, rfl⟩, same⟩ := Office.deactivateAccount_ok done
      rw [same]
  | createDraft c req =>
    simp only [Call.perform, Call.settle_snd]
    cases drawn : (Call.createDraft c req).draws with
    | none =>
      obtain ⟨f, refused⟩ := Office.createDraft_undrawn (o := o) drawn
      rw [refused]
      rfl
    | some d => exact (Office.createDraft_drawn drawn).2.2.2.1
  | updateDraft c number req =>
    simp only [Call.perform, Call.settle_snd, Call.draws, Option.elim]
    cases updated : (o.updateDraft c number req).1 with
    | error f => rw [Office.updateDraft_error updated]
    | ok e =>
      obtain ⟨_, _, _, _, _, _, _, _, same⟩ := Office.updateDraft_ok updated
      rw [same, Books.replaceEntry_sequences]
  | discardDraft c number =>
    simp only [Call.perform, Call.draws, Option.elim]
    cases done : (o.discardDraft c number).1 with
    | error f => rw [Office.discardDraft_error done]
    | ok u =>
      obtain ⟨_, _, _, _, same⟩ := Office.discardDraft_ok done
      rw [same, Books.removeEntry_sequences]
  | postEntry c number =>
    simp only [Call.perform, Call.settle_snd, Call.draws, Option.elim]
    cases posted : (o.postEntry c number).1 with
    | error f => rw [Office.postEntry_error posted]
    | ok e =>
      obtain ⟨_, _, _, _, writes, _, books⟩ := Office.postEntry_ok posted
      rw [books, Books.replaceEntry_sequences, Books.applyWrites_sequences]
  | reverseEntry c number =>
    simp only [Call.perform, Call.settle_snd, Call.draws, Option.elim]
    exact Office.reverseEntry_sequences number

-- Every call draws from a sequence of a prefix without a bar.
theorem Call.draws_barFree {call : Call} {d : String × String} (drawn : call.draws = some d) :
    BarFree d.2 := by
  obtain ⟨t, p⟩ := d
  cases call with
  | createDraft c req => exact (Office.createDraft_drawn (o := default) drawn).2.2.1
  | reverseEntry c number =>
    simp only [Call.draws, Option.some.injEq, Prod.mk.injEq] at drawn
    rw [← drawn.2]
    exact barFree_reversal
  | registerAccount | updateAccount | deactivateAccount | updateDraft | discardDraft | postEntry =>
    cases drawn

theorem Call.lastNumber_le_perform (call : Call) (o : Office) (t p : String) :
    o.books.lastNumber t p ≤ (call.perform o).2.books.lastNumber t p := by
  have sequences := call.perform_sequences o
  cases drawn : call.draws with
  | none =>
    rw [drawn] at sequences
    rw [Books.lastNumber_congr sequences]
  | some d =>
    rw [drawn] at sequences
    rw [Books.lastNumber_congr sequences]
    exact Books.lastNumber_le_nextNumber ..

-- A call advances the sequence it draws from by one. Sequences are stored under a key of the
-- tenant and the prefix, which tells them apart when the prefix has no bar.
theorem Call.perform_lastNumber (call : Call) (o : Office) {t p : String} (barFree : BarFree p) :
    (call.perform o).2.books.lastNumber t p =
      o.books.lastNumber t p + if call.draws = some (t, p) then 1 else 0 := by
  have sequences := call.perform_sequences o
  cases drawn : call.draws with
  | none =>
    rw [drawn] at sequences
    rw [Books.lastNumber_congr sequences]
    simp
  | some d =>
    rw [drawn] at sequences
    rw [Books.lastNumber_congr sequences, Books.lastNumber_nextNumber]
    by_cases same : (t, p) = d
    · subst same
      simp
    · have apart : sequenceKey t p ≠ sequenceKey d.1 d.2 := fun keyed =>
        same (Prod.ext_iff.mpr (sequenceKey_inj_of_barFree barFree (Call.draws_barFree drawn) keyed))
      simp [apart, Ne.symm same]

@[simp] theorem Office.start_lastNumber (pageSize : Nat) (t p : String) :
    (Office.start pageSize).books.lastNumber t p = 0 := rfl

-- Over a session, a sequence's last number grows by its draws.
theorem Office.run_lastNumber (o : Office) (calls : List Call) {t p : String} (barFree : BarFree p) :
    (o.run calls).books.lastNumber t p =
      o.books.lastNumber t p + (calls.filterMap Call.draws).count (t, p) := by
  induction calls generalizing o with
  | nil => simp
  | cons call rest ih =>
    rw [run_cons, ih, Call.perform_lastNumber _ _ barFree, List.filterMap_cons]
    cases drawn : call.draws with
    | none => simp
    | some d =>
      by_cases same : d = (t, p)
      · subst same
        simp only [List.count_cons_self, if_true]
        omega
      · simp only [Option.some.injEq, same, if_false, List.count_cons, beq_iff_eq]
        omega

-- The entry a call creates carries the next number of the sequence the call draws from.
theorem Call.creates_number {call : Call} {o : Office} {e : Entry} (created : call.creates o = some e) :
    ∃ p, call.draws = some (e.tenant, p) ∧ BarFree p ∧
      e.number = Office.entryNumber p (o.books.lastNumber e.tenant p + 1) := by
  cases call with
  | createDraft c req =>
    cases drafted : (o.createDraft c req).1 with
    | error f => simp [Call.creates, drafted] at created
    | ok e' =>
      simp only [Call.creates, drafted, Option.some.injEq] at created
      subst created
      obtain ⟨_, tenant, _, _, _, number, _⟩ := Office.createDraft_ok drafted
      cases drawn : (Call.createDraft c req).draws with
      | none =>
        obtain ⟨f, refused⟩ := Office.createDraft_undrawn (o := o) drawn
        rw [refused] at drafted
        cases drafted
      | some d =>
        obtain ⟨t, p⟩ := d
        -- the prefix is kept as a name: substituting it would make Lean evaluate it
        obtain ⟨rfl, prefixed, barFree, _⟩ := Office.createDraft_drawn (o := o) drawn
        exact ⟨p, by rw [tenant], barFree, by rw [number, tenant, prefixed]⟩
  | reverseEntry c number =>
    cases reversed : (o.reverseEntry c number).1 with
    | error f => simp [Call.creates, reversed] at created
    | ok pair =>
      obtain ⟨src', comp⟩ := pair
      simp only [Call.creates, reversed, Option.some.injEq] at created
      subst created
      obtain ⟨_, _, _, _, _, _, _, _, posting, _⟩ := Office.reverseEntry_ok reversed
      obtain ⟨tenant, number, _⟩ := postLines_fields posting
      simp only [Office.compensation] at tenant number
      exact ⟨"RV", by rw [tenant]; rfl, barFree_reversal, by rw [number, tenant]⟩
  | registerAccount | updateAccount | deactivateAccount | updateDraft | discardDraft | postEntry =>
    cases created

-- A number issued before is not the next one of its sequence.
theorem Books.Issued.ne_next {b : Books} {x : Entry} (issued : b.Issued x) (p : String) :
    x.number ≠ Office.entryNumber p (b.lastNumber x.tenant p + 1) := by
  obtain ⟨p', n, _, number, bound⟩ := issued
  intro same
  rw [number] at same
  obtain ⟨rfl, rfl⟩ := entryNumber_inj same
  omega

-- The entries created so far, followed by those the rest of a session creates, carry distinct
-- numbers in each tenant, all issued. Induction over the calls; what carries it is that each
-- created entry's count is at most the last number of its sequence, and the next entry a
-- sequence names takes the count after it.
theorem Office.created_issued {o : Office} (sound : o.books.Wellformed) (calls : List Call)
    (prior : List Entry) (distinct : (prior.map fun e => (e.tenant, e.number)).Nodup)
    (issued : ∀ e ∈ prior, o.books.Issued e) :
    ((prior ++ o.created calls).map fun e => (e.tenant, e.number)).Nodup ∧
      ∀ e ∈ prior ++ o.created calls, (o.run calls).books.Issued e := by
  induction calls generalizing o prior with
  | nil => simpa [Office.created] using ⟨distinct, issued⟩
  | cons call rest ih =>
    have later := call.lastNumber_le_perform o
    have next := ih (sound.change (Call.perform_change call o)) (prior ++ (call.creates o).toList)
    simp only [Office.created, run_cons, List.append_assoc] at next ⊢
    refine next ?_ ?_
    · cases created : call.creates o with
      | none => simpa using distinct
      | some e =>
        -- the created entry takes the count after every count its sequence issued before
        obtain ⟨p, _, _, number⟩ := Call.creates_number created
        rw [Option.toList_some, List.map_append, List.nodup_append]
        refine ⟨distinct, List.nodup_singleton _, fun k member k' other => ?_⟩
        obtain ⟨x, xMember, rfl⟩ := List.mem_map.mp member
        rw [List.map_singleton, List.mem_singleton] at other
        rw [other]
        intro same
        obtain ⟨tenant, sameNumber⟩ := Prod.mk.inj same
        have fresh := (issued x xMember).ne_next p
        rw [tenant, sameNumber] at fresh
        exact fresh number
    · intro x member
      rcases List.mem_append.mp member with old | new
      · exact (issued x old).mono later
      · cases created : call.creates o with
        | none => simp [created] at new
        | some e =>
          rw [created, Option.toList_some, List.mem_singleton] at new
          subst new
          obtain ⟨p, drawn, barFree, number⟩ := Call.creates_number created
          refine ⟨p, _, barFree, number, ?_⟩
          rw [Call.perform_lastNumber _ _ barFree, drawn, if_pos rfl]

-- The stored entries of a tenant carry distinct numbers: their keys are distinct, and within a
-- tenant the key of an entry names its number.
theorem Books.Wellformed.numbers_distinct {b : Books} (sound : b.Wellformed) (t : String) :
    ((b.entries.filter (·.tenant = t)).map (·.number)).Nodup := by
  have keys : ((b.entries.filter (·.tenant = t)).map Entry.key).Nodup :=
    sound.entryKeys.sublist (List.filter_sublist.map _)
  have keyed : (b.entries.filter (·.tenant = t)).map Entry.key =
      ((b.entries.filter (·.tenant = t)).map (·.number)).map (entryKey t) := by
    rw [List.map_map]
    refine List.map_congr_left fun e member => ?_
    simp [Entry.key, of_decide_eq_true (List.mem_filter.mp member).2]
  rw [keyed] at keys
  exact keys.of_map _

-- In a reachable state a draft is stored exactly when it draws a number: the number it draws
-- is free.
theorem Office.createDraft_ok_iff {o : Office} (sound : o.books.Wellformed) (c : Ctx)
    (req : EntryRequest) :
    (∃ e, (o.createDraft c req).1 = .ok e) ↔ (Call.createDraft c req).draws.isSome := by
  constructor
  · rintro ⟨e, drafted⟩
    cases drawn : (Call.createDraft c req).draws with
    | none =>
      obtain ⟨f, refused⟩ := Office.createDraft_undrawn (o := o) drawn
      rw [refused] at drafted
      cases drafted
    | some d => rfl
  · intro drawn
    obtain ⟨⟨t, p⟩, drawn⟩ := Option.isSome_iff_exists.mp drawn
    obtain ⟨rfl, _, barFree, _, stored⟩ := Office.createDraft_drawn (o := o) drawn
    exact stored (sound.fresh barFree c.tenant)

-- In a reachable state no reversal fails on a taken number.
theorem Office.reverseEntry_ne_duplicate {o : Office} (sound : o.books.Wellformed) {c : Ctx}
    {number : Ref} {f : Fault} (failed : (o.reverseEntry c number).1 = .error f) (k : String) :
    f ≠ .duplicateEntry k := by
  rintro rfl
  rcases Office.reverseEntry_eq_error sound failed with found | ⟨_, _, refused⟩ | ⟨_, _, refused⟩ |
      ⟨lines, checked⟩ | ⟨_, refused | refused | refused⟩
  · rcases found with refused | refused <;> cases refused
  all_goals try cases refused
  rcases checkBalance_eq_error checked with refused | ⟨_, _, _, refused⟩ | ⟨_, _, refused⟩ <;>
    cases refused

-- Entry numbers are never reused. In every state a session reaches the stored entries of a
-- tenant carry distinct numbers, and so do all entries the session ever created in it, drafts
-- discarded since included. Each sequence of a tenant and prefix has issued one number per
-- draw: a draft draws from its voucher's sequence once the tenant is given and its request is
-- admitted, a reversal from the reversal sequence of its tenant before any check, and a draft
-- with voucher type RV shares that sequence. The entry made by the k-th draw of a sequence is
-- numbered by its prefix and k. Storing a new entry never meets a taken number: a draft is
-- stored exactly when it draws, and a reversal never fails on a duplicate.
theorem entry_numbers_never_reused (pageSize : Nat) (calls : List Call) :
    let o := (Office.start pageSize).run calls
    (∀ t, ((o.books.entries.filter (·.tenant = t)).map (·.number)).Nodup) ∧
    (((Office.start pageSize).created calls).map fun e => (e.tenant, e.number)).Nodup ∧
    (∀ t p, BarFree p → o.books.lastNumber t p = (calls.filterMap Call.draws).count (t, p)) ∧
    (∀ pre call post e, calls = pre ++ call :: post →
      call.creates ((Office.start pageSize).run pre) = some e →
        ∃ p, call.draws = some (e.tenant, p) ∧
          e.number = Office.entryNumber p (((pre ++ [call]).filterMap Call.draws).count (e.tenant, p))) ∧
    (∀ c req, (∃ e, (o.createDraft c req).1 = .ok e) ↔ (Call.createDraft c req).draws.isSome) ∧
    (∀ c number f, (o.reverseEntry c number).1 = .error f → ∀ k, f ≠ .duplicateEntry k) := by
  intro o
  have sound : o.books.Wellformed := Office.run_wellformed pageSize calls
  refine ⟨fun t => sound.numbers_distinct t, ?_, fun t p barFree => ?_, ?_, fun c req => ?_,
    fun c number f failed k => ?_⟩
  · exact (Office.created_issued (Office.start_wellformed pageSize) calls []
      List.nodup_nil (by simp)).1
  · rw [Office.run_lastNumber _ _ barFree, Office.start_lastNumber, Nat.zero_add]
  · intro pre call post e _ created
    obtain ⟨p, drawn, barFree, number⟩ := Call.creates_number created
    refine ⟨p, drawn, ?_⟩
    rw [number, Office.run_lastNumber _ _ barFree, Office.start_lastNumber, Nat.zero_add, List.filterMap_append,
      List.count_append]
    simp [drawn]
  · exact Office.createDraft_ok_iff sound c req
  · exact Office.reverseEntry_ne_duplicate sound failed k

-- A draft of voucher type rv and a reversal that fails draw from one sequence, so the next
-- draft of that type takes the third number.
example :
    ((Office.start 20).created
      [.createDraft ⟨"T1", "u1", Timestamp.zero⟩
         { voucher := "rv", lines := [{ code := "1000", debit := ⟨100, 0⟩ }, { code := "4000", credit := ⟨100, 0⟩ }] },
       .reverseEntry ⟨"T1", "u1", Timestamp.zero⟩ "JE-000001",
       .createDraft ⟨"T1", "u1", Timestamp.zero⟩
         { voucher := "RV", lines := [{ code := "1000", debit := ⟨5, 0⟩ }, { code := "4000", credit := ⟨5, 0⟩ }] }]).map
      (·.number) = ["RV-000001", "RV-000003"] := by decide +kernel

-- Counts past six digits widen the number.
example : Office.entryNumber "JE" 1234567 = "JE-1234567" := by decide

end Ledger
