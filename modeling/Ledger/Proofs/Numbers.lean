import Mathlib.Data.List.Basic
import Ledger.Office.Journal

-- Entry numbers and entry keys. A number is its prefix, a dash and a count of at least six
-- digits; no prefix the journal issues has a bar, so no number has one, and the key of an
-- entry then names its tenant and its number apart. Equal numbers have equal prefixes and
-- equal counts.

namespace Ledger

-- Text without the bar that separates the parts of a storage key.
def BarFree (s : String) : Prop := '|' ∉ s.toList

instance : DecidablePred BarFree := fun s => inferInstanceAs (Decidable ('|' ∉ s.toList))

theorem barFree_reversal : BarFree "RV" := by decide

theorem isDigit_of_mem_count {k n : Nat} {c : Char}
    (member : c ∈ List.replicate k '0' ++ Nat.toDigits 10 n) : c.isDigit = true := by
  rcases List.mem_append.mp member with zero | digit
  · rw [List.eq_of_mem_replicate zero]
    decide
  · exact Nat.isDigit_of_mem_toDigits (by decide) (by decide) digit

theorem entryNumber_toList (pfx : String) (n : Nat) :
    (Office.entryNumber pfx n).toList =
      pfx.toList ++ '-' :: (List.replicate (6 - (Nat.toDigits 10 n).length) '0' ++ Nat.toDigits 10 n) := by
  simp [Office.entryNumber]

theorem entryNumber_barFree {pfx : String} (barFree : BarFree pfx) (n : Nat) :
    BarFree (Office.entryNumber pfx n) := by
  intro bar
  rw [entryNumber_toList] at bar
  rcases List.mem_append.mp bar with inPrefix | inCount
  · exact barFree inPrefix
  · rcases List.mem_cons.mp inCount with dash | digit
    · cases dash
    · have := isDigit_of_mem_count digit
      revert this
      decide

theorem entryNumber_ne_empty (pfx : String) (n : Nat) : Office.entryNumber pfx n ≠ "" := by
  intro empty
  have := congrArg String.toList empty
  simp [entryNumber_toList] at this

-- Two lists that end in a separator followed by text without it split there alike.
theorem append_cons_eq_of_notMem {α : Type} {a : α} {x x' s s' : List α} (tail : a ∉ s)
    (tail' : a ∉ s') (same : x ++ a :: s = x' ++ a :: s') : x = x' ∧ s = s' := by
  induction x generalizing x' with
  | nil =>
    cases x' with
    | nil => exact ⟨rfl, (List.cons.inj same).2⟩
    | cons y rest =>
      have later : s = rest ++ a :: s' := (List.cons.inj same).2
      exact absurd (later ▸ List.mem_append_right rest List.mem_cons_self) tail
  | cons b rest ih =>
    cases x' with
    | nil =>
      have later : rest ++ a :: s = s' := (List.cons.inj same).2
      exact absurd (later ▸ List.mem_append_right rest List.mem_cons_self) tail'
    | cons y rest' =>
      obtain ⟨head, later⟩ := List.cons.inj same
      obtain ⟨front, back⟩ := ih later
      exact ⟨head ▸ front ▸ rfl, back⟩

theorem count_digits (k n : Nat) :
    Nat.ofDigitChars 10 (List.replicate k '0' ++ Nat.toDigits 10 n) 0 = n := by
  simp [Nat.ofDigitChars_append]

-- The count is read back from its digits, whatever the zeros in front of them.
theorem entryNumber_inj {pfx pfx' : String} {n n' : Nat}
    (same : Office.entryNumber pfx n = Office.entryNumber pfx' n') : pfx = pfx' ∧ n = n' := by
  have chars := congrArg String.toList same
  rw [entryNumber_toList, entryNumber_toList] at chars
  have noDash : ∀ {k m : Nat}, '-' ∉ List.replicate k '0' ++ Nat.toDigits 10 m := by
    intro k m dash
    have := isDigit_of_mem_count dash
    revert this
    decide
  obtain ⟨prefixes, counts⟩ := append_cons_eq_of_notMem noDash noDash chars
  refine ⟨String.toList_injective prefixes, ?_⟩
  rw [← count_digits _ n, counts, count_digits]

-- A key names its tenant and its number apart once the number has no bar.
theorem entryKey_inj_of_barFree {tenant tenant' number number' : String} (barFree : BarFree number)
    (barFree' : BarFree number') (same : entryKey tenant number = entryKey tenant' number') :
    tenant = tenant' ∧ number = number' := by
  have chars := congrArg String.toList same
  simp only [entryKey, String.toList_append, List.append_assoc] at chars
  rw [show "|".toList = ['|'] from rfl, List.singleton_append, List.singleton_append] at chars
  obtain ⟨tenants, numbers⟩ := append_cons_eq_of_notMem barFree barFree' (List.append_cancel_left chars)
  exact ⟨String.toList_injective tenants, String.toList_injective numbers⟩

-- A sequence key names its tenant and its prefix apart once the prefix has no bar.
theorem sequenceKey_inj_of_barFree {tenant tenant' pfx pfx' : String} (barFree : BarFree pfx)
    (barFree' : BarFree pfx') (same : sequenceKey tenant pfx = sequenceKey tenant' pfx') :
    tenant = tenant' ∧ pfx = pfx' := by
  have chars := congrArg String.toList same
  simp only [sequenceKey, String.toList_append, List.append_assoc] at chars
  rw [show "|".toList = ['|'] from rfl, List.singleton_append, List.singleton_append] at chars
  obtain ⟨tenants, prefixes⟩ := append_cons_eq_of_notMem barFree barFree' chars
  exact ⟨String.toList_injective tenants, String.toList_injective prefixes⟩

theorem toUpper_ne_bar {c : Char} (alnum : Rule.isAsciiAlnum c = true) : c.toUpper ≠ '|' := by
  intro bar
  unfold Char.toUpper at bar
  split at bar
  · -- a lower-case letter moves to the upper-case letters, far below the bar
    rename_i lower
    have value := congrArg (fun c : Char => c.val.toNat) bar
    simp [UInt32.le_iff_toNat_le] at value lower
    omega
  · subst bar
    simp [Rule.isAsciiAlnum] at alnum

theorem EntryRequest.voucher_valid {req : EntryRequest} (valid : req.violation = none) :
    req.voucher = "" ∨ ∀ c ∈ req.voucher.toList, Rule.isAsciiAlnum c = true := by
  simp [EntryRequest.violation, EntryRequest.violations, allViolations, EntryRequest.fields,
    Field.broken, Field.isEmpty] at valid
  by_cases empty : req.voucher = ""
  · exact .inl empty
  · have alnum := (valid.1.1 empty).1
    simp [Rule.holds] at alnum
    exact .inr alnum.2

-- The prefix of an admitted voucher type is letters and digits, or the default one.
theorem voucherPrefix_barFree {req : EntryRequest} (valid : req.violation = none) :
    BarFree (Office.voucherPrefix req.voucher) := by
  unfold Office.voucherPrefix
  dsimp only
  split
  · decide
  · intro bar
    rw [String.toList_ofList] at bar
    obtain ⟨c, member, upper⟩ := List.mem_map.mp bar
    -- trimming keeps a part of the voucher's characters
    have original : c ∈ req.voucher.toList :=
      (List.dropWhile_sublist _).subset ((List.mem_reverse.mp
        ((List.dropWhile_sublist _).subset (List.mem_reverse.mp member))))
    rcases EntryRequest.voucher_valid valid with empty | alnum
    · simp [empty] at original
    · exact toUpper_ne_bar (alnum c original) upper

end Ledger
