import Ledger.Proofs.Reversal

-- Posted history. Editing, discarding and posting each refuse an entry out of draft, and a
-- reversal rewrites only the source's status, its link to the compensation and its last
-- change. So an entry that has left draft stays stored in every later state of a session:
-- unchanged, or, once, reversed. Nothing else about it moves: not its number, dates, lines,
-- totals or posting record.

namespace Ledger

-- What an entry out of draft may have become later: itself, or, when it was posted and not
-- yet reversed, itself reversed by a compensating entry, with its last change stamped.
def Entry.Persists (e' e : Entry) : Prop :=
  e' = e ∨ (e.status = .posted ∧ e.reversedBy = "" ∧ ∃ compensation user now,
    compensation ≠ "" ∧
      e' = { e with status := .reversed, reversedBy := compensation, audit := e.audit.touch user now })

namespace Entry.Persists

variable {e e' e'' : Entry}

theorem refl (e : Entry) : e.Persists e := .inl rfl

-- A reversed entry is reversed no further, so two steps of history make one.
theorem trans (later : e''.Persists e') (earlier : e'.Persists e) : e''.Persists e := by
  rcases earlier with rfl | ⟨posted, unlinked, compensation, user, now, named, rfl⟩
  · exact later
  · rcases later with rfl | ⟨reposted, _⟩
    · exact .inr ⟨posted, unlinked, compensation, user, now, named, rfl⟩
    · cases reposted

-- Whatever a reversal leaves alone is the same in every later version of an entry.
theorem field {α : Type} (persists : e'.Persists e) (f : Entry → α)
    (untouched : ∀ compensation user now, f { e with
      status := .reversed, reversedBy := compensation, audit := e.audit.touch user now } = f e) :
    f e' = f e := by
  rcases persists with rfl | ⟨_, _, compensation, user, now, _, rfl⟩
  · rfl
  · exact untouched compensation user now

theorem key (persists : e'.Persists e) : e'.key = e.key := persists.field Entry.key fun _ _ _ => rfl

theorem live (persists : e'.Persists e) (live : e.status ≠ .draft) : e'.status ≠ .draft := by
  rcases persists with rfl | ⟨_, _, _, _, _, _, rfl⟩
  · exact live
  · exact nofun

-- A reversed entry only persists as itself.
theorem eq_of_reversed (persists : e'.Persists e) (reversed : e.status = .reversed) : e' = e := by
  rcases persists with same | ⟨posted, _⟩
  · exact same
  · rw [reversed] at posted
    cases posted

end Entry.Persists

theorem Books.entry?_eq_some {b : Books} (nodup : (b.entries.map Entry.key).Nodup) {k : String}
    {e : Entry} : b.entry? k = some e ↔ e ∈ b.entries ∧ e.key = k :=
  find_key_eq_some Entry.key nodup

section Persistence

variable {b b' : Books} {c : Ctx}

-- An entry other than the one a rewrite replaces keeps its place.
theorem persists_replaced (sound : b.Wellformed) {e0 e x : Entry} (member : e0 ∈ b.entries)
    (draft : e0.status = .draft) (key : e.key = e0.key) (xMember : x ∈ b.entries)
    (live : x.status ≠ .draft) (entries : b'.entries = (b.replaceEntry e).entries) :
    x ∈ b'.entries := by
  rw [entries]
  refine Books.mem_replaceEntry_of_ne xMember fun same => live ?_
  rw [sound.eq_of_key xMember member (same.trans key), draft]

-- One call: every entry out of draft persists in the books after it.
theorem Books.Change.persists (sound : b.Wellformed) (change : b.Change c b') {e : Entry}
    (member : e ∈ b.entries) (live : e.status ≠ .draft) : ∃ e' ∈ b'.entries, e'.Persists e := by
  cases change with
  | unchanged => exact ⟨e, member, .refl e⟩
  | opened a _ _ => exact ⟨e, member, .refl e⟩
  | redescribed kept =>
    obtain ⟨_, _, rfl⟩ := kept
    exact ⟨e, member, .refl e⟩
  | drafted pfx x _ _ _ _ _ _ => exact ⟨e, List.mem_append_left _ member, .refl e⟩
  | numbered pfx _ => exact ⟨e, member, .refl e⟩
  | redrafted e0 x e0Member draft same =>
    exact ⟨e, persists_replaced sound e0Member draft same.key member live rfl, .refl e⟩
  | discarded e0 e0Member draft =>
    refine ⟨e, List.mem_filter.mpr ⟨member, bne_iff_ne.mpr fun same => live ?_⟩, .refl e⟩
    rw [sound.eq_of_key member e0Member same, draft]
  | posted e0 x writes e0Member draft posting =>
    exact ⟨e, persists_replaced sound e0Member draft (postLines_fields posting).2.2.1 member live
      (by simp), .refl e⟩
  | reversed src comp id writes b₁ srcMember _ posted unreversed posting stored =>
    -- the source itself becomes reversed; every other entry stays, and so does the source's
    -- key, which the compensation, stored under a fresh number, does not take
    have stored₁ : e ∈ b₁.entries := (Books.addEntry_after_writes stored).1 ▸ List.mem_append_left _ member
    by_cases source : e.key = src.key
    · have same := sound.eq_of_key member srcMember source
      subst same
      have named : comp.number ≠ "" := by
        rw [(compensation_fields posting).2.1]
        exact entryNumber_ne_empty _ _
      exact ⟨_, Books.mem_replaceEntry_self stored₁ rfl,
        .inr ⟨posted, unreversed, comp.number, c.user, c.now, named, rfl⟩⟩
    · exact ⟨e, Books.mem_replaceEntry_of_ne stored₁ source, .refl e⟩

end Persistence

-- Along any stretch of a session, every entry out of draft at its start persists to its end.
theorem Office.run_persists {o : Office} (sound : o.books.Wellformed) {e : Entry}
    (member : e ∈ o.books.entries) (live : e.status ≠ .draft) (more : List Call) :
    ∃ e' ∈ (o.run more).books.entries, e'.Persists e := by
  -- the invariant carried call by call: the books stay well formed and hold a later version
  -- of the entry, which is itself out of draft
  have kept := Office.run_invariant (fun o => o.books.Wellformed ∧ ∃ e' ∈ o.books.entries, e'.Persists e)
    (fun o call ⟨sound, e', member', persists⟩ => by
      have change := Call.perform_change call o
      obtain ⟨e'', member'', persists'⟩ := change.persists sound member' (persists.live live)
      exact ⟨sound.change change, e'', member'', persists'.trans persists⟩)
    ⟨sound, e, member, .refl e⟩ more
  exact kept.2

-- Posted history is immutable: if an entry is out of draft in some state of a session, then
-- in every later state the entry under its tenant and number is the same entry, or, when it
-- was posted and not yet reversed, the same entry reversed by a compensation. Its number,
-- dates, voucher, texts, lines, totals, posting record and link to what it reverses never
-- change, it never returns to draft and it is never removed.
theorem posted_history_immutable (pageSize : Nat) (calls more : List Call) {e : Entry}
    (member : e ∈ ((Office.start pageSize).run calls).books.entries) (live : e.status ≠ .draft) :
    ∃ e', ((Office.start pageSize).run (calls ++ more)).books.entry? e.key = some e' ∧
      e'.Persists e := by
  have sound := Office.run_wellformed pageSize calls
  obtain ⟨e', member', persists⟩ := Office.run_persists sound member live more
  rw [← Office.run_append] at member'
  refine ⟨e', ?_, persists⟩
  rw [Books.entry?_eq_some (Office.run_wellformed pageSize (calls ++ more)).entryKeys]
  exact ⟨member', persists.key⟩

-- A posted sale, reversed later: the reversal keeps everything about the sale but its status,
-- its link and its last change.
theorem posted_sale_survives_reversal :
    let calls : List Call :=
      [.registerAccount ⟨"T1", "u1", Timestamp.zero⟩ { code := "1000", name := "Cash", type := "ASSET" },
       .registerAccount ⟨"T1", "u1", Timestamp.zero⟩ { code := "4000", name := "Sales", type := "REVENUE" },
       .createDraft ⟨"T1", "u1", Timestamp.zero⟩
         { lines := [{ code := "1000", debit := ⟨100, 0⟩ }, { code := "4000", credit := ⟨100, 0⟩ }] },
       .postEntry ⟨"T1", "u1", Timestamp.zero⟩ "JE-000001"]
    let sale := ((Office.start 20).run calls).books.entries.headD default
    sale ∈ ((Office.start 20).run calls).books.entries ∧ sale.status ≠ .draft ∧
      ∃ e', ((Office.start 20).run
          (calls ++ [.reverseEntry ⟨"T1", "u2", Timestamp.zero⟩ "JE-000001"])).books.entry? sale.key =
            some e' ∧ e'.Persists sale := by
  intro calls sale
  have member : sale ∈ ((Office.start 20).run calls).books.entries := by decide +kernel
  have live : sale.status ≠ .draft := by decide +kernel
  exact ⟨member, live, posted_history_immutable 20 calls _ member live⟩

end Ledger
