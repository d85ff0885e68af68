import Ledger.Proofs.Statement

-- Announced events over a session. A posting that succeeds announces the entry it posted, and a
-- reversal that succeeds announces the compensating entry, each after its change is stored;
-- nothing else announces anything. The postings and reversals that succeed are exactly the
-- commits that the posting order replays, so the events a tenant sees name its entries out of
-- draft in the order they left it, each once, with the debit totals they carry.

namespace Ledger

-- An event with its identifier blanked: what the event says, not which draw of the counter
-- named it.
def Event.anonymous (ev : Event) : Event := { ev with id := "" }

-- The tenant, number and total an event names.
def Event.names (ev : Event) : String × String × Decimal := (ev.tenant, ev.number, ev.total)

-- The tenant, number and debit total of an entry.
def Entry.names (e : Entry) : String × String × Decimal := (e.tenant, e.number, e.totalDebit)

@[simp] theorem Event.anonymous_names (ev : Event) : ev.anonymous.names = ev.names := rfl

namespace Call

-- What a call announces, identifier aside, read off its result: a posting that succeeds
-- announces the posted entry in the caller's tenant, compensating nothing; a reversal that
-- succeeds announces the compensating entry, compensating the entry it reversed. Other calls,
-- and calls that fail, announce nothing.
def announces : Call → Office → List Event
  | postEntry c number, o =>
    match (o.postEntry c number).1 with
    | .ok e => [⟨"", .posted, c.tenant, e.number, "", e.totalDebit, c.user, c.now⟩]
    | .error _ => []
  | reverseEntry c number, o =>
    match (o.reverseEntry c number).1 with
    | .ok (src, comp) => [⟨"", .reversed, c.tenant, comp.number, src.number, comp.totalDebit, c.user, c.now⟩]
    | .error _ => []
  | _, _ => []

end Call

-- What the calls of a session announce, in the order of the calls.
def Office.announced (o : Office) : List Call → List Event
  | [] => []
  | call :: rest => call.announces o ++ (call.perform o).2.announced rest

namespace Office

variable {o : Office} {c : Ctx} {number : Ref}

@[simp] theorem announced_nil : o.announced [] = [] := rfl

theorem announced_cons (call : Call) (rest : List Call) :
    o.announced (call :: rest) = call.announces o ++ (call.perform o).2.announced rest := rfl

-- A posting that succeeds appends one event for the entry it posted.
theorem postEntry_events {e : Entry} (posted : (o.postEntry c number).1 = .ok e) :
    (o.postEntry c number).2.events =
      o.events ++ [⟨o.ids (o.issued + 1), .posted, e.tenant, e.number, e.reversalOf,
        e.totalDebit, c.user, c.now⟩] := by
  revert posted
  unfold postEntry
  rcases o.books.withinTx (postBody c number) with ⟨_ | e', books⟩
  · intro posted
    cases posted
  · intro posted
    cases posted
    rfl

-- A reversal appends one event for the compensating entry when it succeeds, under the
-- identifier after the compensation's, and none when it fails.
theorem reverseEntry_events :
    (o.reverseEntry c number).2.events = o.events ++
      match (o.reverseEntry c number).1 with
      | .ok (_, comp) => [⟨o.ids (o.issued + 1 + 1), .reversed, comp.tenant, comp.number,
          comp.reversalOf, comp.totalDebit, c.user, c.now⟩]
      | .error _ => [] := by
  unfold reverseEntry
  simp only [freshId]
  -- the compensation takes the identifier after the counter, and its event the one after that
  rcases (o.books.nextNumber c.tenant "RV").2.withinTxAfter (reversalSource c number)
      (reversalBody c number (o.ids (o.issued + 1)) (entryNumber "RV" (o.books.nextNumber c.tenant "RV").1)) with
    ⟨_ | ⟨src, comp⟩, _ | _, books⟩ <;> simp [announce, freshId]

end Office

namespace Call

variable {o : Office}

-- One call: a posting or a reversal that succeeds appends the event it announces, and every
-- other call leaves the events alone. A posted entry was a draft, and drafts compensate
-- nothing, so its event names no source.
theorem perform_announces (linked : o.books.Linked) (call : Call) :
    (call.perform o).2.events.map Event.anonymous = o.events.map Event.anonymous ++ call.announces o := by
  cases call
  case postEntry c number =>
    simp only [perform, settle_snd, announces]
    cases posted : (o.postEntry c number).1 with
    | error f => simp [Office.postEntry_error posted]
    | ok e =>
      obtain ⟨e0, member, tenant, draft, writes, posting, _⟩ := Office.postEntry_ok posted
      obtain ⟨sameTenant, _, _, _, reversalOf, _⟩ := postLines_fields posting
      rw [Office.postEntry_events posted]
      simp [Event.anonymous, sameTenant, tenant, reversalOf, (linked.draft_unlinked member draft).1]
  case reverseEntry c number =>
    simp only [perform, settle_snd, announces]
    cases reversed : (o.reverseEntry c number).1 with
    | error f => simp [Office.reverseEntry_events, reversed]
    | ok pair =>
      obtain ⟨src', comp⟩ := pair
      obtain ⟨src, _, _, _, _, id, writes, books, posting, _, rfl, _⟩ := Office.reverseEntry_ok reversed
      obtain ⟨tenant, _, _, reversalOf, _⟩ := compensation_fields posting
      rw [Office.reverseEntry_events, reversed]
      simp [Event.anonymous, tenant, reversalOf]
  all_goals
    simp only [announces, List.append_nil]
    refine congrArg (List.map Event.anonymous) ?_
    simp only [perform, settle_snd, Office.registerAccount, Office.updateAccount,
      Office.deactivateAccount, Office.createDraft, Office.updateDraft, Office.discardDraft,
      Office.freshId]
    repeat' split
    all_goals rfl

end Call

@[simp] theorem Office.start_events (pageSize : Nat) : (Office.start pageSize).events = [] := rfl

theorem Office.start_linked (pageSize : Nat) : (Office.start pageSize).books.Linked :=
  ⟨by simp, by simp, by simp⟩

-- Over a stretch of a session from well-formed, linked books, the events grow by what its calls
-- announce.
theorem Office.run_announced {o : Office} (sound : o.books.Wellformed) (linked : o.books.Linked)
    (calls : List Call) :
    (o.run calls).events.map Event.anonymous = o.events.map Event.anonymous ++ o.announced calls := by
  induction calls generalizing o with
  | nil => simp
  | cons call rest ih =>
    rw [Office.run_cons, Office.announced_cons, ← List.append_assoc, ← call.perform_announces linked]
    exact ih (sound.change (Call.perform_change call o)) (linked.change sound (Call.perform_change call o))

-- A call announces what it commits: each event names the tenant, number and debit total of the
-- entry the call commits.
theorem Call.announces_names (call : Call) (o : Office) :
    (call.announces o).map Event.names = (call.commit o).toList.map (Entry.names ∘ Prod.fst) := by
  cases call
  case postEntry c number =>
    simp only [announces]
    cases posted : (o.postEntry c number).1 with
    | error f => simp [Call.commit, posted]
    | ok e =>
      obtain ⟨e0, writes, found, _, posting, committed, _⟩ := Office.postEntry_committed posted
      obtain ⟨_, tenant, _⟩ := Office.entryByNumber_eq_ok found
      simp [committed, Event.names, Entry.names, (postLines_fields posting).1, tenant]
  case reverseEntry c number =>
    simp only [announces]
    cases reversed : (o.reverseEntry c number).1 with
    | error f => simp [Call.commit, reversed]
    | ok pair =>
      obtain ⟨src', comp⟩ := pair
      obtain ⟨src, writes, b', _, _, _, posting, _, committed, _⟩ := Office.reverseEntry_committed reversed
      simp [committed, Event.names, Entry.names, (compensation_fields posting).1]
  all_goals rfl

theorem Office.announced_names (o : Office) (calls : List Call) :
    (o.announced calls).map Event.names = (o.commits calls).map (Entry.names ∘ Prod.fst) := by
  induction calls generalizing o with
  | nil => rfl
  | cons call rest ih =>
    simp only [announced_cons, commits_cons, List.map_append, call.announces_names o, ih]

namespace Books.Replays

variable {b : Books} {log : List (Entry × Writes)}

-- The entries a tenant's statement reads are the tenant's entries out of draft.
theorem mem_postedEntries (sound : b.Wellformed) (holds : b.Replays log) (ordered : b.Numbered) {t : String}
    {e : Entry} : e ∈ Office.postedEntries b t ↔ e ∈ b.entries ∧ e.tenant = t ∧ e.status ≠ .draft := by
  simp only [Office.postedEntries_of_numbered ordered, List.mem_filterMap, Option.filter_eq_some_iff, beq_iff_eq,
    Books.entry?_eq_some sound.entryKeys]
  constructor
  · rintro ⟨k, listed, ⟨member, rfl⟩, tenant⟩
    exact ⟨member, tenant, (holds.listed e member).mpr listed⟩
  · rintro ⟨member, tenant, live⟩
    exact ⟨e.key, (holds.listed e member).mp live, ⟨member, rfl⟩, tenant⟩

-- They name, in order, the tenant, number and debit total of the tenant's commits.
theorem postedEntries_names (sound : b.Wellformed) (holds : b.Replays log) (ordered : b.Numbered) (t : String) :
    (Office.postedEntries b t).map Entry.names = (log.filter (·.1.tenant == t)).map (Entry.names ∘ Prod.fst) := by
  rw [← List.forall₂_eq_eq_eq, List.forall₂_map_left_iff, List.forall₂_map_right_iff]
  exact (holds.postedEntries sound ordered t).imp fun e p persists =>
    persists.field Entry.names fun _ _ _ => rfl

-- The tenant's commits carry distinct numbers: their keys are distinct, and within a tenant a
-- key names its number.
theorem numbers_nodup (holds : b.Replays log) (t : String) :
    ((log.filter (·.1.tenant == t)).map (·.1.number)).Nodup := by
  have keys : ((log.filter (·.1.tenant == t)).map (·.1.key)).Nodup := by
    have distinct := holds.distinct
    rw [holds.order] at distinct
    exact distinct.sublist (List.filter_sublist.map _)
  have keyed : (log.filter (·.1.tenant == t)).map (·.1.key) =
      ((log.filter (·.1.tenant == t)).map (·.1.number)).map (entryKey t) := by
    rw [List.map_map]
    refine List.map_congr_left fun p member => ?_
    simp [Entry.key, eq_of_beq (List.mem_filter.mp member).2]
  rw [keyed] at keys
  exact keys.of_map _

end Books.Replays

-- Within a tenant, the events of a session name, in order, the tenant's entries out of draft in
-- the order they left it, with their debit totals.
theorem Office.run_events_of_tenant (pageSize : Nat) (calls : List Call) (t : String) :
    let o := (Office.start pageSize).run calls
    (o.events.filter (·.tenant == t)).map Event.names = (Office.postedEntries o.books t).map Entry.names := by
  intro o
  obtain ⟨sound, linked⟩ := Office.run_linked pageSize calls
  have holds := Office.run_replays (Office.start_wellformed pageSize) (Office.start_replays pageSize) calls
  have announced := Office.run_announced (Office.start_wellformed pageSize) (Office.start_linked pageSize) calls
  rw [Office.start_events, List.map_nil, List.nil_append] at announced
  have ordered : o.books.Numbered := Office.run_numbered Books.Numbered.empty calls
  -- every event names what a commit of the session posted, in commit order
  have named : o.events.map Event.names = ((Office.start pageSize).commits calls).map (Entry.names ∘ Prod.fst) := by
    have anonymous := congrArg (List.map Event.names) announced
    rw [List.map_map] at anonymous
    exact anonymous.trans (Office.announced_names _ calls)
  calc (o.events.filter (·.tenant == t)).map Event.names
      = (o.events.map Event.names).filter (·.1 == t) := by rw [List.filter_map]; rfl
    _ = (((Office.start pageSize).commits calls).filter (·.1.tenant == t)).map (Entry.names ∘ Prod.fst) := by
        rw [named, List.filter_map]; rfl
    _ = (Office.postedEntries o.books t).map Entry.names := by
        rw [holds.postedEntries_names sound ordered t, List.nil_append]

-- The event log mirrors the posting history. Over any session the events announced are, in
-- call order, one for each posting that succeeds, naming the posted entry and no source, and one
-- for each reversal that succeeds, naming the compensating entry and the entry it reversed;
-- failing calls announce nothing. So for every tenant, the numbers its events name are the
-- numbers of its entries out of draft, in the order the statements read them, each once; and
-- each event's total is the debit total of the entry it names.
theorem events_mirror_postings (pageSize : Nat) (calls : List Call) :
    let o := (Office.start pageSize).run calls
    o.events.map Event.anonymous = (Office.start pageSize).announced calls ∧
    ∀ t, (o.events.filter (·.tenant == t)).map (·.number) = (Office.postedEntries o.books t).map (·.number) ∧
      ((Office.postedEntries o.books t).map (·.number)).Nodup ∧
      (∀ e, e ∈ Office.postedEntries o.books t ↔ e ∈ o.books.entries ∧ e.tenant = t ∧ e.status ≠ .draft) ∧
      ∀ ev ∈ o.events, ev.tenant = t →
        ∃ e ∈ Office.postedEntries o.books t, e.number = ev.number ∧ e.totalDebit = ev.total := by
  intro o
  obtain ⟨sound, linked⟩ := Office.run_linked pageSize calls
  have holds := Office.run_replays (Office.start_wellformed pageSize) (Office.start_replays pageSize) calls
  have announced := Office.run_announced (Office.start_wellformed pageSize) (Office.start_linked pageSize) calls
  rw [Office.start_events, List.map_nil, List.nil_append] at announced
  refine ⟨announced, fun t => ?_⟩
  have ordered : o.books.Numbered := Office.run_numbered Books.Numbered.empty calls
  have named := Office.run_events_of_tenant pageSize calls t
  refine ⟨?_, ?_, fun e => holds.mem_postedEntries sound ordered, fun ev member tenant => ?_⟩
  · simpa [List.map_map, Function.comp_def, Event.names, Entry.names] using
      congrArg (List.map fun x => x.2.1) named
  · have numbers := congrArg (List.map fun x => x.2.1) (holds.postedEntries_names sound ordered t)
    simp only [List.map_map, Function.comp_def, Entry.names] at numbers
    rw [numbers]
    exact holds.numbers_nodup t
  · have listed : ev.names ∈ (Office.postedEntries o.books t).map Entry.names := by
      rw [← named]
      exact List.mem_map_of_mem (List.mem_filter.mpr ⟨member, by simpa using tenant⟩)
    obtain ⟨e, posted, same⟩ := List.mem_map.mp listed
    simp only [Entry.names, Event.names, Prod.mk.injEq] at same
    exact ⟨e, posted, same.2.1, same.2.2⟩

-- A sale posted and then reversed: the tenant's events name the sale and then its compensation,
-- the two entries out of draft, in the order they left it, each with its total.
theorem reversed_sale_announced_in_posting_order :
    let calls : List Call :=
      [.registerAccount ⟨"T1", "u1", Timestamp.zero⟩ { code := "1000", name := "Cash", type := "ASSET" },
       .registerAccount ⟨"T1", "u1", Timestamp.zero⟩ { code := "4000", name := "Sales", type := "REVENUE" },
       .createDraft ⟨"T1", "u1", Timestamp.zero⟩
         { lines := [{ code := "1000", debit := ⟨100, 0⟩ }, { code := "4000", credit := ⟨100, 0⟩ }] },
       .postEntry ⟨"T1", "u1", Timestamp.zero⟩ "JE-000001",
       .reverseEntry ⟨"T1", "u2", Timestamp.zero⟩ "JE-000001"]
    let o := (Office.start 20).run calls
    (o.events.filter (·.tenant == "T1")).map (·.number) = ["JE-000001", "RV-000001"] ∧
      (Office.postedEntries o.books "T1").map (·.number) = ["JE-000001", "RV-000001"] ∧
      ∀ ev ∈ o.events, ev.tenant = "T1" →
        ∃ e ∈ Office.postedEntries o.books "T1", e.number = ev.number ∧ e.totalDebit = ev.total := by
  intro calls o
  obtain ⟨numbers, _, _, totals⟩ := (events_mirror_postings 20 calls).2 "T1"
  have listed : (Office.postedEntries o.books "T1").map (·.number) = ["JE-000001", "RV-000001"] := by
    decide +kernel
  exact ⟨numbers.trans listed, listed, totals⟩

end Ledger
