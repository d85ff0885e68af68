import Ledger.Proofs.Wellformed

-- Reversal links. A reversed entry names the entry that compensates it, that entry names it
-- back, and its lines are the source's with debit and credit exchanged. Only drafts are
-- edited, posted or discarded, and a reversal writes both ends of a link in one step, so
-- every session keeps the links whole. An entry out of draft records when it was posted and
-- by whom: the journal takes the caller's user as given, the empty one included.

namespace Ledger

-- The compensating entry's lines are the source's, in order, numbered from one, with debit
-- and credit exchanged; only the account names, looked up again when posting, may differ.
def Entry.Mirrors (r e : Entry) : Prop :=
  r.lines.length = e.lines.length ∧
    ∀ (i : Nat) (hr : i < r.lines.length) (he : i < e.lines.length),
      r.lines[i] = { e.lines[i].swap with number := i + 1, accountName := r.lines[i].accountName }

namespace Books

-- Links between reversed entries and their compensations, kept from both ends.
structure Linked (b : Books) : Prop where
  flagged : ∀ e ∈ b.entries, e.reversedBy ≠ "" ↔ e.status = .reversed
  compensated : ∀ e ∈ b.entries, e.status = .reversed →
    ∃ r ∈ b.entries, r.tenant = e.tenant ∧ r.number = e.reversedBy ∧ r.reversalOf = e.number ∧
      r.status ≠ .draft ∧ r.Mirrors e
  compensates : ∀ r ∈ b.entries, r.reversalOf ≠ "" → r.status ≠ .draft ∧
    ∃ e ∈ b.entries, e.tenant = r.tenant ∧ e.number = r.reversalOf ∧ e.reversedBy = r.number ∧
      e.status = .reversed

-- Every entry out of draft carries the time it was posted and a user among those given.
def Stamped (users : String → Prop) (b : Books) : Prop :=
  ∀ e ∈ b.entries, e.status ≠ .draft → e.postedAt.isSome ∧ users e.postedBy

end Books

section Compensation

variable {b : Books} {c : Ctx} {id number : String} {src comp : Entry}
  {writes : List (String × Decimal)}

-- A compensation's lines come numbered one by one, so posting keeps their order.
theorem compensation_lines_sorted (c : Ctx) (id number : String) (src : Entry) :
    (Office.compensation c id number src).lines.Pairwise
      fun x y => decide (x.number ≤ y.number) = true := by
  rw [List.pairwise_iff_getElem]
  intro i j _ _ earlier
  simp [Office.compensation]
  omega

theorem compensation_mirrors
    (posting : postLines b c (Office.compensation c id number src) = .ok (comp, writes)) :
    comp.Mirrors src := by
  have renamed := postLines_renamed posting
  rw [sortBy_of_pairwise _ (compensation_lines_sorted c id number src)] at renamed
  have length : comp.lines.length = src.lines.length := by
    simpa [Office.compensation] using renamed.length_eq
  refine ⟨length, fun i hr he => ?_⟩
  have line := renamed.get hr (by simpa [Office.compensation] using he)
  simp only [List.get_eq_getElem, Line.Renamed] at line
  rw [line]
  simp [Office.compensation]

-- The posted compensation: of the caller's tenant, under the number given, naming its source.
theorem compensation_fields
    (posting : postLines b c (Office.compensation c id number src) = .ok (comp, writes)) :
    comp.tenant = c.tenant ∧ comp.number = number ∧ comp.status = .posted ∧
      comp.reversalOf = src.number ∧ comp.reversedBy = "" ∧ comp.postedBy = c.user ∧
      comp.postedAt = some c.now := by
  obtain ⟨tenant, number, _, status, reversalOf, reversedBy, postedBy, postedAt⟩ :=
    postLines_fields posting
  exact ⟨tenant, number, status, reversalOf, reversedBy, postedBy, postedAt⟩

end Compensation

section Facts

variable {b : Books}

theorem Books.Wellformed.eq_of_key (sound : b.Wellformed) {x y : Entry} (xMember : x ∈ b.entries)
    (yMember : y ∈ b.entries) (same : x.key = y.key) : x = y :=
  List.inj_on_of_nodup_map sound.entryKeys xMember yMember same

theorem Books.Wellformed.number_ne_empty (sound : b.Wellformed) {e : Entry}
    (member : e ∈ b.entries) : e.number ≠ "" := by
  obtain ⟨pfx, n, _, number, _⟩ := sound.issued e member
  rw [number]
  exact entryNumber_ne_empty pfx n

-- A draft has no links.
theorem Books.Linked.draft_unlinked (linked : b.Linked) {e : Entry} (member : e ∈ b.entries)
    (draft : e.status = .draft) : e.reversalOf = "" ∧ e.reversedBy = "" := by
  constructor
  · by_contra linkedTo
    exact (linked.compensates e member linkedTo).1 draft
  · by_contra named
    have reversed := (linked.flagged e member).mp named
    rw [draft] at reversed
    cases reversed

-- An entry is compensated once if it is reversed and never otherwise: a compensation is named
-- back by its source, and within a tenant a number names one entry.
theorem Books.Linked.countP_reversalOf (linked : b.Linked) (sound : b.Wellformed) {e : Entry}
    (member : e ∈ b.entries) :
    b.entries.countP (fun x => x.tenant = e.tenant ∧ x.reversalOf = e.number) =
      if e.status = .reversed then 1 else 0 := by
  have named : ∀ x ∈ b.entries, decide (x.tenant = e.tenant ∧ x.reversalOf = e.number) = true →
      e.status = .reversed ∧ x.key = entryKey e.tenant e.reversedBy := by
    intro x xMember passes
    obtain ⟨tenant, number⟩ := of_decide_eq_true passes
    obtain ⟨_, source, sourceMember, sourceTenant, sourceNumber, reversedBy, reversed⟩ :=
      linked.compensates x xMember (number ▸ sound.number_ne_empty member)
    have same : source = e := sound.eq_of_key sourceMember member (by
      rw [Entry.key, Entry.key, sourceTenant, sourceNumber, tenant, number])
    subst same
    exact ⟨reversed, by rw [Entry.key, tenant, reversedBy]⟩
  split
  · rename_i reversed
    obtain ⟨r, rMember, tenant, _, reversalOf, _⟩ := linked.compensated e member reversed
    apply le_antisymm
    · exact countP_le_one_of_key Entry.key sound.entryKeys fun x xMember passes =>
        (named x xMember passes).2
    · exact List.countP_pos_iff.mpr ⟨r, rMember, decide_eq_true ⟨tenant, reversalOf⟩⟩
  · rename_i unreversed
    exact List.countP_eq_zero.mpr fun x xMember passes => unreversed (named x xMember passes).1

end Facts

namespace Books.Linked

variable {b b' : Books} {c : Ctx}

-- A change that keeps every entry out of draft, and adds or rewrites only entries that are
-- neither linked nor reversed, keeps the links.
theorem of_members (linked : b.Linked)
    (kept : ∀ x ∈ b.entries, x.status ≠ .draft → x ∈ b'.entries)
    (came : ∀ x ∈ b'.entries,
      x ∈ b.entries ∨ (x.reversalOf = "" ∧ x.reversedBy = "" ∧ x.status ≠ .reversed)) :
    b'.Linked where
  flagged x member := by
    rcases came x member with old | ⟨_, unnamed, unreversed⟩
    · exact linked.flagged x old
    · simp [unnamed, unreversed]
  compensated x member reversed := by
    rcases came x member with old | ⟨_, _, unreversed⟩
    · obtain ⟨r, rMember, tenant, number, reversalOf, live, mirrors⟩ :=
        linked.compensated x old reversed
      exact ⟨r, kept r rMember live, tenant, number, reversalOf, live, mirrors⟩
    · exact absurd reversed unreversed
  compensates r member linkedTo := by
    rcases came r member with old | ⟨unlinked, _⟩
    · obtain ⟨live, e, eMember, tenant, number, reversedBy, reversed⟩ :=
        linked.compensates r old linkedTo
      refine ⟨live, e, kept e eMember ?_, tenant, number, reversedBy, reversed⟩
      rw [reversed]
      decide
    · exact absurd unlinked linkedTo

theorem congr (linked : b.Linked) (entries : b'.entries = b.entries) : b'.Linked :=
  linked.of_members (fun _ member _ => entries ▸ member) fun _ member => .inl (entries ▸ member)

theorem drafted (linked : b.Linked) {e : Entry} (draft : e.status = .draft)
    (unlinked : e.reversalOf = "" ∧ e.reversedBy = "") (entries : b'.entries = b.entries ++ [e]) :
    b'.Linked := by
  refine linked.of_members (fun x member _ => entries ▸ List.mem_append_left _ member) ?_
  intro x member
  rw [entries] at member
  rcases List.mem_append.mp member with old | new
  · exact .inl old
  · rw [List.mem_singleton.mp new, draft]
    exact .inr ⟨unlinked.1, unlinked.2, by decide⟩

-- Rewriting a draft in place, into an entry that is neither linked nor reversed, keeps the
-- links: no link ends at a draft.
theorem replaced (sound : b.Wellformed) (linked : b.Linked) {e0 e : Entry} (member : e0 ∈ b.entries)
    (draft : e0.status = .draft) (key : e.key = e0.key)
    (unlinked : e.reversalOf = "" ∧ e.reversedBy = "") (unreversed : e.status ≠ .reversed)
    (entries : b'.entries = (b.replaceEntry e).entries) : b'.Linked := by
  refine linked.of_members (fun x xMember live => ?_) fun x xMember => ?_
  · rw [entries]
    refine Books.mem_replaceEntry_of_ne xMember fun same => live ?_
    rw [sound.eq_of_key xMember member (same.trans key), draft]
  · rw [entries] at xMember
    rcases Books.mem_replaceEntry xMember with rfl | ⟨old, _⟩
    · exact .inr ⟨unlinked.1, unlinked.2, unreversed⟩
    · exact .inl old

theorem discarded (sound : b.Wellformed) (linked : b.Linked) {e0 : Entry} (member : e0 ∈ b.entries)
    (draft : e0.status = .draft) : (b.removeEntry e0.key).Linked := by
  refine linked.of_members (fun x xMember live => ?_) fun x xMember => .inl (List.mem_of_mem_filter xMember)
  refine List.mem_filter.mpr ⟨xMember, bne_iff_ne.mpr fun same => live ?_⟩
  rw [sound.eq_of_key xMember member same, draft]

-- Reversing: the source, now reversed, names the compensation, which names it back; a link
-- that ended at the source ends at it still, since its number and lines stay.
theorem reversed (sound : b.Wellformed) (linked : b.Linked) {src comp : Entry} {id : String}
    {writes : List (String × Decimal)} (member : src ∈ b.entries) (tenant : src.tenant = c.tenant)
    (live : src.status = .posted)
    (posting : postLines (b.nextNumber c.tenant "RV").2 c
      (Office.compensation c id (Office.entryNumber "RV" (b.lastNumber c.tenant "RV" + 1)) src) =
        .ok (comp, writes))
    (stored : ((b.nextNumber c.tenant "RV").2.applyWrites writes c.user c.now).addEntry comp =
      .ok b') :
    (b'.replaceEntry { src with
      status := .reversed, reversedBy := comp.number, audit := src.audit.touch c.user c.now }).Linked := by
  obtain ⟨entries, older⟩ := Books.addEntry_after_writes stored
  obtain ⟨compTenant, compNumber, compLive, compReversalOf, compReversedBy, _⟩ :=
    compensation_fields posting
  set src' : Entry := { src with
    status := .reversed, reversedBy := comp.number, audit := src.audit.touch c.user c.now }
  have fresh : comp.key ≠ src.key := fun same => older src member same.symm
  -- what the reversal stores, and what it keeps
  have members : ∀ x ∈ (b'.replaceEntry src').entries,
      x = src' ∨ x = comp ∨ (x ∈ b.entries ∧ x.key ≠ src.key) :=
    fun x xMember => Books.mem_replaceEntry_after_writes stored xMember
  have kept : ∀ x ∈ b.entries, x.key ≠ src.key → x ∈ (b'.replaceEntry src').entries :=
    fun x xMember other => Books.mem_replaceEntry_of_ne (entries ▸ List.mem_append_left _ xMember) other
  have compKept : comp ∈ (b'.replaceEntry src').entries :=
    Books.mem_replaceEntry_of_ne (entries ▸ List.mem_append_right _ List.mem_cons_self) fresh
  have srcStored : src ∈ b'.entries := entries ▸ List.mem_append_left _ member
  have srcKept : src' ∈ (b'.replaceEntry src').entries := Books.mem_replaceEntry_self srcStored rfl
  -- a reversed entry is not the source, which is still posted
  have notSource : ∀ x ∈ b.entries, x.status = .reversed → x.key ≠ src.key := by
    intro x xMember reversed same
    rw [sound.eq_of_key xMember member same, live] at reversed
    cases reversed
  -- a link from an entry stored before still ends at its source, which is not the one
  -- reversed now
  have backLinked : ∀ r ∈ b.entries, r.reversalOf ≠ "" →
      ∃ e ∈ (b'.replaceEntry src').entries, e.tenant = r.tenant ∧ e.number = r.reversalOf ∧
        e.reversedBy = r.number ∧ e.status = .reversed := by
    intro r rMember linkedTo
    obtain ⟨_, e, eMember, tenant, number, reversedBy, reversed⟩ :=
      linked.compensates r rMember linkedTo
    exact ⟨e, kept e eMember (notSource e eMember reversed), tenant, number, reversedBy, reversed⟩
  have compNamed : comp.number ≠ "" := by
    rw [compNumber]
    exact entryNumber_ne_empty _ _
  refine ⟨fun x xMember => ?_, fun x xMember reversed => ?_, fun r rMember linkedTo => ?_⟩
  · rcases members x xMember with rfl | rfl | ⟨old, _⟩
    · simp [src', compNamed]
    · simp [compReversedBy, compLive]
    · exact linked.flagged x old
  · rcases members x xMember with rfl | rfl | ⟨old, _⟩
    · exact ⟨comp, compKept, compTenant.trans tenant.symm, rfl, compReversalOf,
        by rw [compLive]; decide, compensation_mirrors posting⟩
    · rw [compLive] at reversed
      cases reversed
    · obtain ⟨r, rMember, rTenant, number, reversalOf, rLive, mirrors⟩ :=
        linked.compensated x old reversed
      by_cases source : r.key = src.key
      · -- the compensation of this entry is the source itself, reversed in its turn
        have same := sound.eq_of_key rMember member source
        subst same
        exact ⟨src', srcKept, rTenant, number, reversalOf,
          show EntryStatus.reversed ≠ .draft by decide, mirrors⟩
      · exact ⟨r, kept r rMember source, rTenant, number, reversalOf, rLive, mirrors⟩
  · rcases members r rMember with rfl | rfl | ⟨old, _⟩
    · exact ⟨show EntryStatus.reversed ≠ .draft by decide, backLinked src member linkedTo⟩
    · exact ⟨by rw [compLive]; decide, src', srcKept, tenant.trans compTenant.symm,
        compReversalOf.symm, rfl, rfl⟩
    · exact ⟨(linked.compensates r old linkedTo).1, backLinked r old linkedTo⟩

-- Each way a call can change well-formed books keeps the links.
theorem change (sound : b.Wellformed) (linked : b.Linked) (change : b.Change c b') : b'.Linked := by
  cases change with
  | unchanged => exact linked
  | opened a _ _ => exact linked.congr rfl
  | redescribed kept =>
    obtain ⟨_, _, rfl⟩ := kept
    exact linked.congr rfl
  | drafted pfx e _ _ draft unlinked _ _ => exact linked.drafted draft unlinked rfl
  | numbered pfx _ => exact linked.congr rfl
  | redrafted e0 e member draft same =>
    have unlinked := linked.draft_unlinked member draft
    exact linked.replaced sound member draft same.key
      ⟨same.reversalOf.trans unlinked.1, same.reversedBy.trans unlinked.2⟩
      (by rw [same.status, draft]; decide) rfl
  | discarded e0 member draft => exact linked.discarded sound member draft
  | posted e0 e writes member draft posting =>
    obtain ⟨_, _, key, status, reversalOf, reversedBy, _⟩ := postLines_fields posting
    have unlinked := linked.draft_unlinked member draft
    exact linked.replaced sound member draft key
      ⟨reversalOf.trans unlinked.1, reversedBy.trans unlinked.2⟩ (by rw [status]; decide)
      (by simp)
  | reversed src comp id writes b' member tenant live _ posting stored =>
    exact linked.reversed sound member tenant live posting stored

end Books.Linked

namespace Books.Stamped

variable {users : String → Prop} {b b' : Books} {c : Ctx}

theorem of_members (stamped : b.Stamped users)
    (came : ∀ x ∈ b'.entries,
      x ∈ b.entries ∨ (x.status ≠ .draft → x.postedAt.isSome ∧ users x.postedBy)) :
    b'.Stamped users := by
  intro x member live
  rcases came x member with old | new
  · exact stamped x old live
  · exact new live

-- Each way a call can change the books stamps what it posts with the caller's user.
theorem change (stamped : b.Stamped users) (user : users c.user) (change : b.Change c b') :
    b'.Stamped users := by
  cases change with
  | unchanged => exact stamped
  | opened a _ _ => exact stamped
  | redescribed kept =>
    obtain ⟨_, _, rfl⟩ := kept
    exact stamped.of_members fun x member => .inl member
  | drafted pfx e _ _ draft _ _ _ =>
    refine stamped.of_members fun x member => ?_
    rcases List.mem_append.mp member with old | new
    · exact .inl old
    · exact .inr fun live => absurd (List.mem_singleton.mp new ▸ draft) live
  | numbered pfx _ => exact stamped
  | redrafted e0 e member draft same =>
    refine stamped.of_members fun x xMember => ?_
    rcases Books.mem_replaceEntry xMember with rfl | ⟨old, _⟩
    · exact .inr fun live => absurd (same.status.trans draft) live
    · exact .inl old
  | discarded e0 _ _ =>
    exact stamped.of_members fun x member => .inl (List.mem_of_mem_filter member)
  | posted e0 e writes _ _ posting =>
    obtain ⟨_, _, _, _, _, _, postedBy, postedAt⟩ := postLines_fields posting
    refine stamped.of_members fun x xMember => ?_
    rcases Books.mem_replaceEntry xMember with rfl | ⟨old, _⟩
    · exact .inr fun _ => ⟨by simp [postedAt], postedBy ▸ user⟩
    · exact .inl (by simpa using old)
  | reversed src comp id writes b' member _ live _ posting stored =>
    obtain ⟨_, _, _, _, _, postedBy, postedAt⟩ := compensation_fields posting
    refine stamped.of_members fun x xMember => ?_
    rcases Books.mem_replaceEntry_after_writes stored xMember with rfl | rfl | ⟨old, _⟩
    · exact .inr fun _ => stamped src member (by rw [live]; decide)
    · exact .inr fun _ => ⟨by simp [postedAt], postedBy ▸ user⟩
    · exact .inl old

end Books.Stamped

-- Every session keeps its books well formed and their reversal links whole.
theorem Office.run_linked (pageSize : Nat) (calls : List Call) :
    ((Office.start pageSize).run calls).books.Wellformed ∧
      ((Office.start pageSize).run calls).books.Linked :=
  Office.run_invariant (fun o => o.books.Wellformed ∧ o.books.Linked)
    (fun o call ⟨sound, linked⟩ =>
      ⟨sound.change (Call.perform_change call o), linked.change sound (Call.perform_change call o)⟩)
    ⟨Office.start_wellformed pageSize, ⟨by simp, by simp, by simp⟩⟩ calls

-- Every entry a session posts records a time and the user of one of its calls.
theorem Office.run_stamped (pageSize : Nat) (calls : List Call) :
    ((Office.start pageSize).run calls).books.Stamped fun user => ∃ call ∈ calls, call.ctx.user = user :=
  Office.run_invariant_of_mem (fun o => o.books.Stamped fun user => ∃ call ∈ calls, call.ctx.user = user)
    (fun o call member stamped => stamped.change ⟨call, member, rfl⟩ (Call.perform_change call o))
    (by simp [Books.Stamped, Office.start])

-- In every state a session reaches: an entry names a compensation exactly when it is
-- reversed; that compensation, of its tenant and out of draft, names it back and mirrors its
-- lines; it is the only entry that compensates it; every entry out of draft records when it
-- was posted and a user of the session's calls, who may be the empty one; and no draft
-- compensates anything.
theorem reversal_links_consistent (pageSize : Nat) (calls : List Call) :
    let b := ((Office.start pageSize).run calls).books
    ∀ e ∈ b.entries,
      (e.reversedBy ≠ "" ↔ e.status = .reversed) ∧
      (e.reversedBy ≠ "" → ∃ r ∈ b.entries, r.tenant = e.tenant ∧ r.number = e.reversedBy ∧
        r.reversalOf = e.number ∧ r.status ≠ .draft ∧ r.Mirrors e) ∧
      b.entries.countP (fun x => x.tenant = e.tenant ∧ x.reversalOf = e.number) =
        (if e.status = .reversed then 1 else 0) ∧
      (e.status ≠ .draft → e.postedAt.isSome ∧ ∃ call ∈ calls, call.ctx.user = e.postedBy) ∧
      (e.reversalOf ≠ "" → e.status ≠ .draft) := by
  intro b e member
  obtain ⟨sound, linked⟩ := Office.run_linked pageSize calls
  have flagged := linked.flagged e member
  exact ⟨flagged, fun named => linked.compensated e member (flagged.mp named),
    linked.countP_reversalOf sound member, Office.run_stamped pageSize calls e member,
    fun linkedTo => (linked.compensates e member linkedTo).1⟩

-- A posted sale, reversed: the sale is reversed, one entry compensates it, and that entry
-- mirrors its lines.
theorem reversed_sale_has_one_mirror :
    let b := ((Office.start 20).run
      [.registerAccount ⟨"T1", "u1", Timestamp.zero⟩ { code := "1000", name := "Cash", type := "ASSET" },
       .registerAccount ⟨"T1", "u1", Timestamp.zero⟩ { code := "4000", name := "Sales", type := "REVENUE" },
       .createDraft ⟨"T1", "u1", Timestamp.zero⟩
         { lines := [{ code := "1000", debit := ⟨100, 0⟩ }, { code := "4000", credit := ⟨100, 0⟩ }] },
       .postEntry ⟨"T1", "u1", Timestamp.zero⟩ "JE-000001",
       .reverseEntry ⟨"T1", "u1", Timestamp.zero⟩ "JE-000001"]).books
    let sale := b.entries.headD default
    sale ∈ b.entries ∧ sale.status = .reversed ∧
      b.entries.countP (fun x => x.tenant = sale.tenant ∧ x.reversalOf = sale.number) = 1 ∧
      ∃ r ∈ b.entries, r.number = sale.reversedBy ∧ r.Mirrors sale := by
  intro b sale
  have member : sale ∈ b.entries := by decide +kernel
  have reversed : sale.status = .reversed := by decide +kernel
  obtain ⟨flagged, compensated, counted, _⟩ := reversal_links_consistent 20 _ sale member
  refine ⟨member, reversed, by rw [counted, if_pos reversed], ?_⟩
  obtain ⟨r, rMember, _, number, _, _, mirrors⟩ := compensated (flagged.mpr reversed)
  exact ⟨r, rMember, number, mirrors⟩

-- Posting with the empty user: the posted entry records no one as its poster.
theorem posting_without_user_records_no_poster :
    ∃ e ∈ ((Office.start 20).run
        [.registerAccount ⟨"T1", "u1", Timestamp.zero⟩ { code := "1000", name := "Cash", type := "ASSET" },
         .registerAccount ⟨"T1", "u1", Timestamp.zero⟩ { code := "4000", name := "Sales", type := "REVENUE" },
         .createDraft ⟨"T1", "u1", Timestamp.zero⟩
           { lines := [{ code := "1000", debit := ⟨100, 0⟩ }, { code := "4000", credit := ⟨100, 0⟩ }] },
         .postEntry ⟨"T1", "", Timestamp.zero⟩ "JE-000001"]).books.entries,
      e.status ≠ .draft ∧ e.postedBy = "" := by
  decide +kernel

end Ledger
