import Ledger.Proofs.Paging

-- Page tokens and the order of pages. A token carries a cursor's two times in RFC 3339 and its
-- number; reading it gives back the same cursor, field for field, when both times are legible and
-- the number is not empty, bars in the number included. The reader makes an offset of 25 hours of
-- `-24:60`, which the renderer writes as `-25:00` and the reader then refuses. The cursor's test
-- `after` and the listing's comparator are one order read two ways: the two instants, then the
-- bytes of the number, the listing running from the largest key down.

namespace Ledger

namespace Utf8

-- Byte-wise order is the lexicographic order of byte lists.
theorem bytesLt_iff_lt (xs ys : List UInt8) : bytesLt xs ys = true ↔ xs < ys := by
  induction xs generalizing ys with
  | nil =>
    cases ys with
    | nil => simp [bytesLt]
    | cons y ys => simp [bytesLt, List.nil_lt_cons]
  | cons x xs ih =>
    cases ys with
    | nil => simp [bytesLt]
    | cons y ys =>
      rw [List.cons_lt_cons_iff, ← ih ys]
      by_cases below : x < y
      · simp [bytesLt, below]
      · by_cases above : y < x
        · have apart : x ≠ y := fun same => below (same ▸ above)
          simp [bytesLt, below, above, apart]
        · have same : x = y := by
            rw [UInt8.lt_iff_toNat_lt] at below above
            exact UInt8.toNat_inj.mp (by omega)
          simp [bytesLt, same]

end Utf8

-- Where a cursor stands among listed entries: its entry date and its creation time as instants,
-- then the bytes of its number, compared in that order.
def Cursor.key (c : Cursor) : Int ×ₗ Int ×ₗ List UInt8 :=
  toLex (c.date.epochNanos, toLex (c.createdAt.epochNanos, c.number))

-- An entry's keys are after a cursor exactly when they stand below it.
theorem Cursor.after_iff (c : Cursor) (date createdAt : Timestamp) (number : String) :
    c.after date createdAt number = true ↔ (Cursor.mk date createdAt (Utf8.bytes number)).key < c.key := by
  simp only [Cursor.after, Cursor.key, Prod.Lex.toLex_lt_toLex, Timestamp.sameInstant, Timestamp.before]
  by_cases dates : date.epochNanos = c.date.epochNanos
  · by_cases created : createdAt.epochNanos = c.createdAt.epochNanos
    · simpa [dates, created] using Utf8.bytesLt_iff_lt (Utf8.bytes number) c.number
    · simp [dates, created]
  · simp [dates]

-- The listing's comparator puts an entry first exactly when the other stands below it.
theorem Office.listedBefore_iff_cursor (a b : Entry) :
    listedBefore a b = true ↔ b.cursor.key < a.cursor.key := by
  rw [← Cursor.after_cursor]
  exact Cursor.after_iff a.cursor b.date b.audit.createdAt b.number

-- A token reads back as its cursor when the two times are legible and the number is not empty;
-- for every cursor, its test and the listing's comparator are converse readings of one order on
-- keys.
theorem page_tokens_read_back_in_cursor_order (c : Cursor) (date : c.date.Legible)
    (createdAt : c.createdAt.Legible) (named : c.number ≠ []) :
    Cursor.decode (Cursor.encode c) = .ok c ∧
    (∀ (k : Cursor) (entryDate created : Timestamp) (number : String),
      k.after entryDate created number = true ↔ (Cursor.mk entryDate created (Utf8.bytes number)).key < k.key) ∧
    (∀ a b : Entry, Office.listedBefore a b = true ↔ b.cursor.key < a.cursor.key) ∧
    (∀ last e : Entry, last.cursor.after e.date e.audit.createdAt e.number = Office.listedBefore last e) :=
  ⟨Cursor.decode_encode date createdAt named, Cursor.after_iff, Office.listedBefore_iff_cursor,
    Cursor.after_cursor⟩

-- The last day of a leap February, a nanosecond before midnight, at the widest offset the reader
-- takes, with a bar in the number: the token gives the cursor back.
theorem token_at_widest_offset_reads_back :
    let c : Cursor := ⟨⟨2024, 2, 29, 23, 59, 59, 999999999, -89940⟩, ⟨2024, 1, 1, 0, 0, 0, 500000000, 0⟩,
      Utf8.bytes "JE|000001"⟩
    c.date.Legible ∧ c.createdAt.Legible ∧ c.number ≠ [] ∧ Cursor.decode (Cursor.encode c) = .ok c := by
  intro c
  have date : c.date.Legible := by decide
  have createdAt : c.createdAt.Legible := by decide
  have named : c.number ≠ [] := Utf8.bytes_ne_nil (by decide)
  exact ⟨date, createdAt, named, (page_tokens_read_back_in_cursor_order c date createdAt named).1⟩

-- An entry date of `-24:60` has an offset of 25 hours, whole minutes; its token writes `-25:00`,
-- an hour the reader refuses, so the token of that cursor does not read back.
theorem token_at_offset_of_25_hours_unreadable :
    Timestamp.read "2024-01-01T00:00:00-24:60" = .ok ⟨2024, 1, 1, 0, 0, 0, 0, -90000⟩ ∧
      Cursor.decode (Cursor.encode ⟨⟨2024, 1, 1, 0, 0, 0, 0, -90000⟩, ⟨2024, 1, 1, 0, 0, 0, 0, 0⟩,
          Utf8.bytes "JE-000001"⟩) =
        .error (.entryDate (.outOfRange (Utf8.bytes "2024-01-01T00:00:00-25:00") "time zone offset hour")) := by
  constructor <;> decide +kernel

end Ledger
