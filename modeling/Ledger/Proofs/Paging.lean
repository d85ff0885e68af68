import Mathlib.Data.String.Basic
import Mathlib.Data.Prod.Lex
import Ledger.Office.Journal
import Ledger.Proofs.Timestamps
import Ledger.Proofs.Reversal

-- Paging through the entry listing. A listing runs down the listing key: entry date, creation
-- time, number. A page that leaves entries behind ends with a token that carries its last
-- entry's cursor: the entry's two times written in RFC 3339 and its number, in base64. When the
-- times read back as themselves, the call with that token lists exactly what comes after the
-- entry, so following the tokens from the first page cuts the whole listing into pages of the
-- limit. A time past year 9999 is written with five year digits, which no token may hold.

namespace Ledger

section Tokens

@[simp] theorem bytes_bar : Utf8.bytes "|" = [0x7C] := by simp [Utf8.bytes_eq_flatMap, String.utf8EncodeChar]

theorem bar_not_mem_bytes_render (t : Timestamp) : 0x7C ∉ Utf8.bytes t.render := fun member =>
  t.bar_not_mem_render (Utf8.char_mem_of_byte_mem (c := '|') (by decide) member)

theorem findIdx?_bar {xs : List UInt8} (free : 0x7C ∉ xs) (rest : List UInt8) :
    (xs ++ 0x7C :: rest).findIdx? (· = 0x7C) = some xs.length :=
  findIdx?_append_cons (p := (· = 0x7C)) (fun _ member => decide_eq_false (ne_of_mem_of_not_mem member free))
    (by decide) rest

-- Splitting at the first two bars finds them when the first two parts hold none.
theorem Cursor.splitParts_bars {xs ys : List UInt8} (xsFree : 0x7C ∉ xs) (ysFree : 0x7C ∉ ys)
    (zs : List UInt8) : Cursor.splitParts (xs ++ 0x7C :: (ys ++ 0x7C :: zs)) = some (xs, ys, zs) := by
  rw [Cursor.splitParts, findIdx?_bar xsFree]
  simp [findIdx?_bar ysFree]

-- A cursor whose times are legible and whose number is not empty reads back from its token.
theorem Cursor.decode_encode {c : Cursor} (date : c.date.Legible) (createdAt : c.createdAt.Legible)
    (named : c.number ≠ []) : Cursor.decode (Cursor.encode c) = .ok c := by
  have written : Utf8.bytes (c.date.render ++ "|" ++ c.createdAt.render ++ "|") ++ c.number =
      Utf8.bytes c.date.render ++ 0x7C :: (Utf8.bytes c.createdAt.render ++ 0x7C :: c.number) := by
    simp
  have split := Cursor.splitParts_bars (bar_not_mem_bytes_render c.date)
    (bar_not_mem_bytes_render c.createdAt) c.number
  rw [Cursor.decode, Cursor.encode, Base64.decode_encode, written]
  have present : c.number.isEmpty = false := List.isEmpty_eq_false_iff.mpr named
  simp only [bind, Except.bind, split, Timestamp.readBytes_render date,
    Timestamp.readBytes_render createdAt, present, Bool.false_eq_true, if_false]
  rfl

-- The token of such a cursor names it.
theorem Office.readToken_encode {c : Cursor} (date : c.date.Readable) (createdAt : c.createdAt.Readable)
    (named : c.number ≠ []) : Office.readToken (Cursor.encode c) = .ok (some c) := by
  have token : (Cursor.encode c).isEmpty = false :=
    String.isEmpty_eq_false_iff.mpr (Base64.encode_ne_empty (by simp))
  rw [Office.readToken, token, Cursor.decode_encode date.legible createdAt.legible named]
  rfl

/-- The cursor of a page that ends at an entry. -/
def Entry.cursor (e : Entry) : Cursor := ⟨e.date, e.audit.createdAt, Utf8.bytes e.number⟩

-- An entry is after the cursor of a page exactly when it is listed after the page's last entry.
theorem Cursor.after_cursor (last e : Entry) :
    last.cursor.after e.date e.audit.createdAt e.number = Office.listedBefore last e := by
  simp only [Cursor.after, Entry.cursor, Office.listedBefore, Utf8.bytesLt_bytes, Timestamp.sameInstant,
    Bool.beq_comm (a := e.date.epochNanos), Bool.beq_comm (a := e.audit.createdAt.epochNanos)]
  rfl

end Tokens

section Order

/-- Where an entry stands in a listing: its entry date and its creation time, both as instants,
then its number, compared in that order. A listing runs from the largest key down. -/
def Entry.listingKey (e : Entry) : Int ×ₗ Int ×ₗ String :=
  toLex (e.date.epochNanos, toLex (e.audit.createdAt.epochNanos, e.number))

theorem Office.listedBefore_iff {a b : Entry} : listedBefore a b = true ↔ b.listingKey < a.listingKey := by
  simp only [Office.listedBefore, Entry.listingKey, Prod.Lex.toLex_lt_toLex, Timestamp.sameInstant,
    Timestamp.before]
  by_cases date : a.date.epochNanos = b.date.epochNanos
  · by_cases created : a.audit.createdAt.epochNanos = b.audit.createdAt.epochNanos
    · simp [date, created]
    · simp [date, created]
      omega
  · simp [date]
    omega

theorem Office.not_listedBefore_iff {a b : Entry} : (!listedBefore b a) = true ↔ b.listingKey ≤ a.listingKey := by
  rw [Bool.not_eq_true', ← Bool.not_eq_true, listedBefore_iff, not_lt]

section Listing

variable {b : Books}

theorem Office.mem_listing {tenant : String} {status : Option EntryStatus} {cursor : Option Cursor}
    {e : Entry} : e ∈ Office.listing b tenant status cursor ↔ e ∈ b.entries ∧ e.tenant = tenant ∧
      (status.all (e.status == ·) && cursor.all (·.after e.date e.audit.createdAt e.number)) = true := by
  simp [Office.listing, Bool.and_assoc]

-- Two entries of one tenant with the same key are one entry: the number is part of the key.
theorem Books.Wellformed.eq_of_listingKey (sound : b.Wellformed) {x y : Entry} (xMember : x ∈ b.entries)
    (yMember : y ∈ b.entries) (tenant : x.tenant = y.tenant) (same : x.listingKey = y.listingKey) :
    x = y := by
  have numbers : x.number = y.number := by
    simp only [Entry.listingKey, EmbeddingLike.apply_eq_iff_eq, Prod.mk.injEq] at same
    exact same.2.2
  exact sound.eq_of_key xMember yMember (by simp [Entry.key, tenant, numbers])

-- A listing runs strictly down the listing key.
theorem Office.listing_pairwise (sound : b.Wellformed) (tenant : String) (status : Option EntryStatus)
    (cursor : Option Cursor) :
    (Office.listing b tenant status cursor).Pairwise fun x y => y.listingKey < x.listingKey := by
  -- the sort leaves the keys in order, and the entries are distinct
  have ordered := sortBy_pairwise (fun x y => !Office.listedBefore y x)
    (fun x y z xy yz => Office.not_listedBefore_iff.mpr
      (le_trans (Office.not_listedBefore_iff.mp yz) (Office.not_listedBefore_iff.mp xy)))
    (fun x y => (le_total y.listingKey x.listingKey).imp Office.not_listedBefore_iff.mpr
      Office.not_listedBefore_iff.mpr)
    (b.entries.filter fun e => e.tenant == tenant && status.all (e.status == ·) &&
      cursor.all (·.after e.date e.audit.createdAt e.number))
  have distinct : (Office.listing b tenant status cursor).Nodup :=
    (sortBy_perm _ _).nodup_iff.mpr ((List.Nodup.of_map Entry.key sound.entryKeys).filter _)
  refine (ordered.and distinct).imp_of_mem fun xMember yMember ⟨le, other⟩ => ?_
  obtain ⟨xStored, xTenant, _⟩ := Office.mem_listing.mp xMember
  obtain ⟨yStored, yTenant, _⟩ := Office.mem_listing.mp yMember
  exact lt_of_le_of_ne (Office.not_listedBefore_iff.mp le)
    fun same => other (sound.eq_of_listingKey xStored yStored (xTenant.trans yTenant.symm) same.symm)

-- Listing after the cursor of an entry keeps, of the whole listing, what comes after the entry.
theorem Office.listing_after (sound : b.Wellformed) (tenant : String) (status : Option EntryStatus)
    (last : Entry) : Office.listing b tenant status (some last.cursor) =
      (Office.listing b tenant status none).filter (Office.listedBefore last) := by
  refine List.Perm.eq_of_pairwise ?_ (Office.listing_pairwise sound tenant status _)
    ((Office.listing_pairwise sound tenant status none).filter _) ?_
  · intro x y _ _ xy yx
    exact absurd (lt_trans xy yx) (lt_irrefl _)
  · -- both hold the tenant's entries of the status that are listed after the entry
    refine (sortBy_perm _ _).trans (List.Perm.trans ?_ ((sortBy_perm _ _).filter _).symm)
    rw [List.filter_filter]
    simp [Cursor.after_cursor, Bool.and_comm]

-- In a listing, what comes after an entry is what is listed after it.
theorem Office.filter_listedBefore {pre post : List Entry} {last : Entry}
    (ordered : (pre ++ last :: post).Pairwise fun x y => y.listingKey < x.listingKey) :
    (pre ++ last :: post).filter (Office.listedBefore last) = post := by
  rw [List.pairwise_append, List.pairwise_cons] at ordered
  obtain ⟨_, ⟨first, _⟩, across⟩ := ordered
  rw [List.filter_append, List.filter_cons]
  have before : pre.filter (Office.listedBefore last) = [] := List.filter_eq_nil_iff.mpr
    fun x member listed => absurd (Office.listedBefore_iff.mp listed)
      (not_lt.mpr (across x member last List.mem_cons_self).le)
  have self : Office.listedBefore last last = false :=
    Bool.eq_false_iff.mpr fun listed => lt_irrefl _ (Office.listedBefore_iff.mp listed)
  have after : post.filter (Office.listedBefore last) = post := List.filter_eq_self.mpr
    fun y member => Office.listedBefore_iff.mpr (first y member)
  simp [before, self, after]

end Listing

end Order

section Browsing

variable {b : Books} {pageSize : Nat} {tenant : String} {q : EntryQuery}

-- The token is no field with a rule.
theorem EntryQuery.violation_token (q : EntryQuery) (token : String) :
    { q with token := token }.violation = q.violation := by
  simp only [EntryQuery.violation, EntryQuery.violations, EntryQuery.fields]

theorem clampLimit_pos (requested : Int) (positive : 0 < pageSize) :
    0 < (clampLimit requested pageSize 100).toNat := by
  simp only [clampLimit]
  split_ifs <;> omega

-- A valid query whose token names a cursor gets the first page of the listing after it.
theorem Office.listEntries_eq {cursor : Option Cursor} (valid : q.violation = none)
    (reads : Office.readToken q.token = .ok cursor) :
    Office.listEntries b pageSize tenant q = .ok (Office.pageOf (clampLimit q.limit pageSize 100).toNat
      (Office.listing b tenant (EntryStatus.ofName? q.status) cursor)) := by
  simp [Office.listEntries, valid, reads]
  rfl

theorem Office.pageOf_all {limit : Nat} {sorted : List Entry} (fits : sorted.length ≤ limit) :
    Office.pageOf limit sorted = (sorted, none) := by
  rw [Office.pageOf, if_pos fits]

theorem Office.pageOf_more {limit : Nat} {sorted init : List Entry} {last : Entry}
    (more : ¬ sorted.length ≤ limit) (split : sorted.take limit = init ++ [last]) :
    Office.pageOf limit sorted = (sorted.take limit, some (Cursor.encode last.cursor)) := by
  rw [Office.pageOf, if_neg more]
  simp only [split, List.getLast?_concat]
  rfl

/-- Browsing a listing from a token: the pages that the listing returns, passing each page's
next-page token to the following call, up to a page that comes back without one. -/
inductive Office.Browse (b : Books) (pageSize : Nat) (tenant : String) (q : EntryQuery) :
    String → List (List Entry) → Prop
  /-- A page without a next-page token is the last. -/
  | last {token : String} {page : List Entry} :
    Office.listEntries b pageSize tenant { q with token := token } = .ok (page, none) →
      Office.Browse b pageSize tenant q token [page]
  /-- A page with a next-page token comes before the pages browsed from that token. -/
  | next {token next : String} {page : List Entry} {pages : List (List Entry)} :
    Office.listEntries b pageSize tenant { q with token := token } = .ok (page, some next) →
      Office.Browse b pageSize tenant q next pages → Office.Browse b pageSize tenant q token (page :: pages)

namespace Office.Browse

-- Each call answers one way, so browsing from a token gives one list of pages.
theorem determined {token : String} {pages pages' : List (List Entry)}
    (browse : Office.Browse b pageSize tenant q token pages)
    (browse' : Office.Browse b pageSize tenant q token pages') : pages = pages' := by
  induction browse generalizing pages' with
  | last answer =>
    cases browse' with
    | last answer' =>
      rw [answer] at answer'
      cases answer'
      rfl
    | next answer' _ =>
      rw [answer] at answer'
      cases answer'
  | next answer _ ih =>
    cases browse' with
    | last answer' =>
      rw [answer] at answer'
      cases answer'
    | next answer' rest =>
      rw [answer] at answer'
      cases answer'
      rw [ih rest]

theorem ne_nil {token : String} {pages : List (List Entry)}
    (browse : Office.Browse b pageSize tenant q token pages) : pages ≠ [] := by
  cases browse <;> simp

-- Browsing from a token needs the call at that token to succeed.
theorem answers {token : String} {pages : List (List Entry)}
    (browse : Office.Browse b pageSize tenant q token pages) :
    ∃ r, Office.listEntries b pageSize tenant { q with token := token } = .ok r := by
  cases browse with
  | last answer => exact ⟨_, answer⟩
  | next answer _ => exact ⟨_, answer⟩

-- Browsing goes on from the next-page token of each call.
theorem follows {token next : String} {pages : List (List Entry)}
    (browse : Office.Browse b pageSize tenant q token pages)
    (answer : (Office.listEntries b pageSize tenant { q with token := token }).map Prod.snd = .ok (some next)) :
    ∃ pages', Office.Browse b pageSize tenant q next pages' := by
  cases browse with
  | last answer' =>
    rw [answer'] at answer
    cases answer
  | next answer' rest =>
    rw [answer'] at answer
    cases answer
    exact ⟨_, rest⟩

end Office.Browse

-- Browsing from a page boundary of the whole listing: when the call at a token lists the rest
-- of the listing, the pages browsed from the token cut that rest into pages of the limit.
theorem Office.browse_rest (sound : b.Wellformed) (valid : q.violation = none)
    (positive : 0 < (clampLimit q.limit pageSize 100).toNat)
    (readable : ∀ e ∈ b.entries, e.tenant = tenant → e.date.Readable ∧ e.audit.createdAt.Readable)
    (pre rest : List Entry) (token : String)
    (whole : Office.listing b tenant (EntryStatus.ofName? q.status) none = pre ++ rest)
    (answer : Office.listEntries b pageSize tenant { q with token := token } =
      .ok (Office.pageOf (clampLimit q.limit pageSize 100).toNat rest)) :
    ∃ pages, Office.Browse b pageSize tenant q token pages ∧ pages.flatten = rest ∧
      (∀ p ∈ pages.dropLast, p.length = (clampLimit q.limit pageSize 100).toNat) ∧
      (pages = [[]] ∨ ∀ p ∈ pages, p ≠ []) := by
  by_cases fits : rest.length ≤ (clampLimit q.limit pageSize 100).toNat
  · refine ⟨[rest], .last (answer.trans (by rw [Office.pageOf_all fits])), by simp, by simp, ?_⟩
    by_cases empty : rest = []
    · exact .inl (by rw [empty])
    · exact .inr (by simpa using empty)
  · -- a full page, ending at the entry whose cursor the next-page token carries
    have full : (rest.take (clampLimit q.limit pageSize 100).toNat).length =
        (clampLimit q.limit pageSize 100).toNat := by
      simp only [List.length_take]
      omega
    have nonempty : rest.take (clampLimit q.limit pageSize 100).toNat ≠ [] := by
      rw [← List.length_pos_iff, full]
      exact positive
    obtain ⟨init, last, split⟩ := (List.eq_nil_or_concat _).resolve_left nonempty
    rw [List.concat_eq_append] at split
    have listed : last ∈ Office.listing b tenant (EntryStatus.ofName? q.status) none := by
      rw [whole]
      exact List.mem_append_right _ (List.mem_of_mem_take (split ▸ List.mem_concat_self))
    obtain ⟨stored, ofTenant, _⟩ := Office.mem_listing.mp listed
    have reads : Office.readToken (Cursor.encode last.cursor) = .ok (some last.cursor) :=
      Office.readToken_encode (readable last stored ofTenant).1 (readable last stored ofTenant).2
        (Utf8.bytes_ne_nil (sound.number_ne_empty stored))
    -- the listing after that entry is the rest less the page
    have boundary : Office.listing b tenant (EntryStatus.ofName? q.status) none =
        (pre ++ init) ++ last :: rest.drop (clampLimit q.limit pageSize 100).toNat := by
      calc Office.listing b tenant (EntryStatus.ofName? q.status) none
          = pre ++ (rest.take (clampLimit q.limit pageSize 100).toNat ++
              rest.drop (clampLimit q.limit pageSize 100).toNat) := by rw [whole, List.take_append_drop]
        _ = (pre ++ init) ++ last :: rest.drop (clampLimit q.limit pageSize 100).toNat := by
          rw [split]
          simp
    have remaining : Office.listing b tenant (EntryStatus.ofName? q.status) (some last.cursor) =
        rest.drop (clampLimit q.limit pageSize 100).toNat := by
      rw [Office.listing_after sound, boundary, Office.filter_listedBefore]
      exact boundary ▸ Office.listing_pairwise sound tenant _ none
    obtain ⟨pages, browse, flat, sized, filled⟩ := Office.browse_rest sound valid positive readable
      (pre ++ rest.take (clampLimit q.limit pageSize 100).toNat)
      (rest.drop (clampLimit q.limit pageSize 100).toNat) (Cursor.encode last.cursor)
      (by rw [whole, List.append_assoc, List.take_append_drop])
      (by rw [Office.listEntries_eq (q := { q with token := Cursor.encode last.cursor })
        ((q.violation_token _).trans valid) reads, remaining])
    have later : rest.drop (clampLimit q.limit pageSize 100).toNat ≠ [] := by
      simp only [ne_eq, List.drop_eq_nil_iff]
      omega
    refine ⟨rest.take (clampLimit q.limit pageSize 100).toNat :: pages,
      .next (answer.trans (by rw [Office.pageOf_more fits split])) browse, ?_, ?_, .inr ?_⟩
    · rw [List.flatten_cons, flat, List.take_append_drop]
    · rw [List.dropLast_cons_of_ne_nil browse.ne_nil]
      rintro p (_ | ⟨_, member⟩)
      · exact full
      · exact sized p member
    · -- the pages after this one are not the one empty page, since entries remain
      have allFilled : ∀ p ∈ pages, p ≠ [] := filled.resolve_left fun only => later (by
        rw [← flat, only]
        rfl)
      rintro p (_ | ⟨_, member⟩)
      · exact nonempty
      · exact allFilled p member
termination_by rest.length
decreasing_by
  simp only [List.length_drop]
  omega

-- Browsing the entry listing from the first page on, passing each next-page token to the next
-- call, comes to an end, when every date and creation time of the tenant's entries reads back
-- from its rendering. Its pages hold the tenant's entries of the status asked for, each once,
-- from the latest entry date, creation time and number down; every page but the last is full,
-- and only an empty listing gives an empty page, as its only one.
theorem entry_pages_cover_listing (sound : b.Wellformed) (positive : 0 < pageSize)
    (valid : q.violation = none)
    (readable : ∀ e ∈ b.entries, e.tenant = tenant → e.date.Readable ∧ e.audit.createdAt.Readable) :
    (∃ pages, Office.Browse b pageSize tenant q "" pages) ∧
    ∀ pages, Office.Browse b pageSize tenant q "" pages →
      pages.flatten.Perm (b.entries.filter fun e =>
        e.tenant == tenant && (EntryStatus.ofName? q.status).all (e.status == ·)) ∧
      pages.flatten.Nodup ∧
      pages.flatten.Pairwise (fun x y => y.listingKey < x.listingKey) ∧
      (∀ p ∈ pages.dropLast, p.length = (clampLimit q.limit pageSize 100).toNat) ∧
      ∀ p ∈ pages.tail, p ≠ [] := by
  obtain ⟨pages, browse, flat, sized, filled⟩ := Office.browse_rest sound valid
    (clampLimit_pos q.limit positive) readable [] _ "" rfl
    (Office.listEntries_eq (q := { q with token := "" }) ((q.violation_token _).trans valid) rfl)
  refine ⟨⟨pages, browse⟩, fun pages' browse' => ?_⟩
  rw [← browse.determined browse', flat]
  refine ⟨?_, ?_, Office.listing_pairwise sound tenant _ none, sized, ?_⟩
  · -- the whole listing sorts the tenant's entries of the status
    refine (sortBy_perm _ _).trans (List.Perm.of_eq (List.filter_congr fun e _ => ?_))
    simp
  · exact (sortBy_perm _ _).nodup_iff.mpr ((List.Nodup.of_map Entry.key sound.entryKeys).filter _)
  · rcases filled with only | allFilled
    · simp [only]
    · exact fun p member => allFilled p (List.mem_of_mem_tail member)

end Browsing

-- Three drafts, in pages of two: the first page holds the two latest entry dates, the second
-- the earliest.
theorem three_drafts_in_pages_of_two :
    let calls : List Call :=
      [.registerAccount ⟨"T1", "u1", Timestamp.zero⟩ { code := "1000", name := "Cash", type := "ASSET" },
       .registerAccount ⟨"T1", "u1", Timestamp.zero⟩ { code := "4000", name := "Sales", type := "REVENUE" },
       .createDraft ⟨"T1", "u1", Timestamp.zero⟩
         { date := ⟨2024, 1, 1, 0, 0, 0, 0, 0⟩,
           lines := [{ code := "1000", debit := ⟨100, 0⟩ }, { code := "4000", credit := ⟨100, 0⟩ }] },
       .createDraft ⟨"T1", "u1", Timestamp.zero⟩
         { date := ⟨2024, 3, 1, 9, 0, 0, 0, 3600⟩,
           lines := [{ code := "1000", debit := ⟨250, 0⟩ }, { code := "4000", credit := ⟨250, 0⟩ }] },
       .createDraft ⟨"T1", "u1", Timestamp.zero⟩
         { date := ⟨2024, 2, 1, 12, 30, 0, 500000000, 0⟩,
           lines := [{ code := "1000", debit := ⟨75, 0⟩ }, { code := "4000", credit := ⟨75, 0⟩ }] }]
    let b := ((Office.start 20).run calls).books
    (∀ e ∈ b.entries, e.tenant = "T1" → e.date.Readable ∧ e.audit.createdAt.Readable) ∧
      (∃ pages, Office.Browse b 20 "T1" { limit := 2 } "" pages) ∧
      ∀ pages, Office.Browse b 20 "T1" { limit := 2 } "" pages →
        pages.flatten.Perm (b.entries.filter fun e =>
          e.tenant == "T1" && (EntryStatus.ofName? "").all (e.status == ·)) ∧
        pages.flatten.Nodup ∧
        pages.flatten.Pairwise (fun x y => y.listingKey < x.listingKey) ∧
        (∀ p ∈ pages.dropLast, p.length = (clampLimit 2 20 100).toNat) ∧
        ∀ p ∈ pages.tail, p ≠ [] := by
  intro calls b
  have readable : ∀ e ∈ b.entries, e.tenant = "T1" → e.date.Readable ∧ e.audit.createdAt.Readable := by
    decide +kernel
  exact ⟨readable, entry_pages_cover_listing (Office.run_wellformed 20 calls) (by decide)
    (by decide +kernel) readable⟩

-- Answers compare constructor by constructor, so a call's answer at a fixed input can be decided.
instance instDecidableEqExcept {ε α : Type} [DecidableEq ε] [DecidableEq α] : DecidableEq (Except ε α)
  | .ok a, .ok a' => if same : a = a' then isTrue (same ▸ rfl) else isFalse fun equal => same (by cases equal; rfl)
  | .error e, .error e' => if same : e = e' then isTrue (same ▸ rfl) else isFalse fun equal => same (by cases equal; rfl)
  | .ok _, .error _ => isFalse nofun
  | .error _, .ok _ => isFalse nofun

-- A creation time past year 9999 is written with five year digits, which the token reader does
-- not take: the second call fails, and browsing never ends with a last page.
theorem browsing_stops_past_year_9999 :
    let calls : List Call :=
      [.registerAccount ⟨"T1", "u1", Timestamp.zero⟩ { code := "1000", name := "Cash", type := "ASSET" },
       .registerAccount ⟨"T1", "u1", Timestamp.zero⟩ { code := "4000", name := "Sales", type := "REVENUE" },
       .createDraft ⟨"T1", "u1", (⟨9999, 12, 31, 23, 0, 0, 0, -7200⟩ : Timestamp).toUTC⟩
         { date := ⟨2024, 6, 1, 0, 0, 0, 0, 0⟩,
           lines := [{ code := "1000", debit := ⟨100, 0⟩ }, { code := "4000", credit := ⟨100, 0⟩ }] },
       .createDraft ⟨"T1", "u1", ⟨2024, 1, 2, 0, 0, 0, 0, 0⟩⟩
         { date := ⟨2024, 1, 1, 0, 0, 0, 0, 0⟩,
           lines := [{ code := "1000", debit := ⟨100, 0⟩ }, { code := "4000", credit := ⟨100, 0⟩ }] }]
    let b := ((Office.start 20).run calls).books
    (Office.listEntries b 20 "T1" { limit := 1 }).map Prod.snd =
        .ok (some "MjAyNC0wNi0wMVQwMDowMDowMFp8MTAwMDAtMDEtMDFUMDE6MDA6MDBafEpFLTAwMDAwMQ==") ∧
      Office.listEntries b 20 "T1"
          { limit := 1, token := "MjAyNC0wNi0wMVQwMDowMDowMFp8MTAwMDAtMDEtMDFUMDE6MDA6MDBafEpFLTAwMDAwMQ==" } =
        .error (.badToken (.createdAt (.cannotParse (Utf8.bytes "10000-01-01T01:00:00Z")
          (Utf8.bytes "0-01-01T01:00:00Z") "-"))) ∧
      ¬ ∃ pages, Office.Browse b 20 "T1" { limit := 1 } "" pages := by
  intro calls b
  have first : (Office.listEntries b 20 "T1" { limit := 1 }).map Prod.snd =
      .ok (some "MjAyNC0wNi0wMVQwMDowMDowMFp8MTAwMDAtMDEtMDFUMDE6MDA6MDBafEpFLTAwMDAwMQ==") := by
    decide +kernel
  have second : Office.listEntries b 20 "T1"
      { limit := 1, token := "MjAyNC0wNi0wMVQwMDowMDowMFp8MTAwMDAtMDEtMDFUMDE6MDA6MDBafEpFLTAwMDAwMQ==" } =
      .error (.badToken (.createdAt (.cannotParse (Utf8.bytes "10000-01-01T01:00:00Z")
        (Utf8.bytes "0-01-01T01:00:00Z") "-"))) := by
    decide +kernel
  refine ⟨first, second, ?_⟩
  rintro ⟨pages, browse⟩
  obtain ⟨_, rest⟩ := browse.follows first
  obtain ⟨_, answer⟩ := rest.answers
  rw [second] at answer
  cases answer

end Ledger
