import Ledger.Proofs.EntryForm

-- Field rules. A request is refused at the first field, in field order, that breaks one of its
-- rules, under the first rule it breaks; a draft request's header comes first, then its lines in
-- order, each named by its position. A request no field of which breaks a rule is clean. The
-- amount rule judges a decimal by its value alone: it holds exactly of the non-negative amounts
-- in whole cents, however the decimal is written, and so agrees with the amount check the
-- journal makes itself.

namespace Ledger

-- The first field of a list, in order, that breaks a rule, reported under `pre`.
def FirstBroken (pre : String) (fields : List Field) (v : Violation) : Prop :=
  ∃ before f after, fields = before ++ f :: after ∧ (∀ g ∈ before, g.broken = none) ∧
    ∃ r, f.broken = some r ∧ v = ⟨pre ++ f.name, f.name, r⟩

-- No field of the line breaks a rule.
def LineRequest.Clean (l : LineRequest) : Prop := ∀ f ∈ l.fields, f.broken = none

namespace EntryRequest

-- No field of the request, header or line, breaks a rule.
def Clean (r : EntryRequest) : Prop := (∀ f ∈ r.fields, f.broken = none) ∧ ∀ l ∈ r.lines, l.Clean

-- The first field of a draft request that breaks a rule, in field order: a header field, or else
-- a field of the first line that has one, named by the line's position.
def FirstBroken (r : EntryRequest) (v : Violation) : Prop :=
  Ledger.FirstBroken "CreateJournalEntryRequest." r.fields v ∨
    (∀ f ∈ r.fields, f.broken = none) ∧ ∃ pre l post, r.lines = pre ++ l :: post ∧
      (∀ l' ∈ pre, l'.Clean) ∧
      Ledger.FirstBroken ("CreateJournalEntryRequest.Lines[" ++ toString pre.length ++ "].") l.fields v

end EntryRequest

section Listing

variable {pre : String} {fields : List Field}

theorem allViolations_eq_nil_iff : allViolations pre fields = [] ↔ ∀ f ∈ fields, f.broken = none := by
  simp [allViolations, List.filterMap_eq_nil_iff]

-- The first violation listed is the first field that breaks a rule.
theorem allViolations_head?_eq_some_iff {v : Violation} :
    (allViolations pre fields).head? = some v ↔ FirstBroken pre fields v := by
  rw [allViolations, List.head?_filterMap, List.findSome?_eq_some_iff]
  constructor
  · rintro ⟨before, f, after, split, named, kept⟩
    obtain ⟨r, broken, rfl⟩ := Option.map_eq_some_iff.mp named
    exact ⟨before, f, after, split, fun g member => Option.map_eq_none_iff.mp (kept g member), r, broken, rfl⟩
  · rintro ⟨before, f, after, split, kept, r, broken, rfl⟩
    exact ⟨before, f, after, split, by rw [broken]; rfl,
      fun g member => Option.map_eq_none_iff.mpr (kept g member)⟩

-- A list with a first broken field is not clean.
theorem FirstBroken.not_clean {v : Violation} (first : FirstBroken pre fields v) :
    ¬ ∀ f ∈ fields, f.broken = none := by
  obtain ⟨_, f, _, split, _, _, broken, _⟩ := first
  intro clean
  rw [clean f (by rw [split]; simp)] at broken
  cases broken

theorem allViolations_head?_eq_none_iff :
    (allViolations pre fields).head? = none ↔ ∀ f ∈ fields, f.broken = none := by
  rw [List.head?_eq_none_iff, allViolations_eq_nil_iff]

end Listing

section Lines

-- The lines' violations, from position `i`: none when every line is clean, and otherwise those
-- of the first line that is not, named by its position.
theorem lineViolations_head?_eq_none_iff (i : Nat) (lines : List LineRequest) :
    (lineViolations i lines).head? = none ↔ ∀ l ∈ lines, l.Clean := by
  induction lines generalizing i with
  | nil => simp [lineViolations]
  | cons l rest ih =>
    rw [lineViolations, List.head?_append, Option.or_eq_none_iff, LineRequest.violationsUnder,
      allViolations_head?_eq_none_iff, ih, List.forall_mem_cons]
    rfl

theorem lineViolations_head?_eq_some_iff (i : Nat) (lines : List LineRequest) {v : Violation} :
    (lineViolations i lines).head? = some v ↔ ∃ pre l post, lines = pre ++ l :: post ∧
      (∀ l' ∈ pre, l'.Clean) ∧
      FirstBroken ("CreateJournalEntryRequest.Lines[" ++ toString (i + pre.length) ++ "].") l.fields v := by
  induction lines generalizing i with
  | nil => simp [lineViolations]
  | cons l rest ih =>
    rw [lineViolations, List.head?_append, LineRequest.violationsUnder]
    cases first : (allViolations ("CreateJournalEntryRequest.Lines[" ++ toString i ++ "].") l.fields).head? with
    | some w =>
      -- this line breaks a rule: it is the first such line
      have broken := allViolations_head?_eq_some_iff.mp first
      have dirty : ¬ l.Clean := broken.not_clean
      simp only [Option.some_or, Option.some.injEq]
      constructor
      · rintro rfl
        exact ⟨[], l, rest, rfl, by simp, by simpa using broken⟩
      · rintro ⟨pre, l', post, split, before, named⟩
        cases pre with
        | nil =>
          obtain ⟨rfl, rfl⟩ := List.cons.inj split
          simp only [List.length_nil, Nat.add_zero] at named
          exact Option.some.inj (first.symm.trans (allViolations_head?_eq_some_iff.mpr named))
        | cons l'' pre =>
          obtain ⟨rfl, _⟩ := List.cons.inj split
          exact absurd (before l List.mem_cons_self) dirty
    | none =>
      -- this line is clean: the first broken one is among the rest, one position on
      have clean : l.Clean := allViolations_head?_eq_none_iff.mp first
      rw [Option.none_or, ih]
      constructor
      · rintro ⟨pre, l', post, split, before, named⟩
        refine ⟨l :: pre, l', post, by rw [split]; rfl, ?_, ?_⟩
        · exact List.forall_mem_cons.mpr ⟨clean, before⟩
        · simpa [Nat.add_assoc, Nat.add_comm 1] using named
      · rintro ⟨pre, l', post, split, before, named⟩
        cases pre with
        | nil =>
          obtain ⟨rfl, rfl⟩ := List.cons.inj split
          exact absurd clean named.not_clean
        | cons l'' pre =>
          obtain ⟨rfl, rest⟩ := List.cons.inj split
          refine ⟨pre, l', post, rest, fun x member => before x (List.mem_cons_of_mem _ member), ?_⟩
          simpa [Nat.add_assoc, Nat.add_comm 1] using named

end Lines

namespace EntryRequest

variable {r : EntryRequest}

theorem violation_eq_none_iff : r.violation = none ↔ r.Clean := by
  rw [violation, violations, List.head?_append, Option.or_eq_none_iff, allViolations_head?_eq_none_iff,
    lineViolations_head?_eq_none_iff]
  rfl

-- A draft request is refused at its first broken field, lines named by their position.
theorem violation_eq_some_iff {v : Violation} : r.violation = some v ↔ r.FirstBroken v := by
  rw [violation, violations, List.head?_append]
  cases header : (allViolations "CreateJournalEntryRequest." r.fields).head? with
  | some w =>
    have kept := (allViolations_head?_eq_some_iff.mp header).not_clean
    rw [Option.some_or, Option.some.injEq, FirstBroken, ← allViolations_head?_eq_some_iff, header,
      Option.some.injEq]
    simp [kept]
  | none =>
    have kept := allViolations_head?_eq_none_iff.mp header
    rw [Option.none_or, lineViolations_head?_eq_some_iff, FirstBroken, ← allViolations_head?_eq_some_iff,
      header]
    simp only [Nat.zero_add, reduceCtorEq, false_or]
    exact ⟨fun found => ⟨kept, found⟩, And.right⟩

theorem FirstBroken.not_clean {v : Violation} (first : r.FirstBroken v) : ¬ r.Clean := fun clean =>
  Option.some_ne_none v ((violation_eq_some_iff.mpr first).symm.trans (violation_eq_none_iff.mpr clean))

end EntryRequest

namespace AccountRequest

variable {r : AccountRequest}

theorem violation_eq_none_iff : r.violation = none ↔ ∀ f ∈ r.fields, f.broken = none :=
  allViolations_head?_eq_none_iff

theorem violation_eq_some_iff {v : Violation} :
    r.violation = some v ↔ FirstBroken "CreateAccountRequest." r.fields v :=
  allViolations_head?_eq_some_iff

end AccountRequest

section Rules

-- A field that is always checked keeps its rules exactly when its value keeps each of them.
theorem Field.broken_eq_none_of_checked {f : Field} {x : FieldValue} (checked : f.optional = false)
    (given : f.value = some x) : f.broken = none ↔ ∀ r ∈ f.rules, r.holds x = true := by
  simp [Field.broken, checked, given, List.find?_eq_none]

-- The amount rule holds exactly of the non-negative amounts in whole cents, judged by value.
theorem Rule.holds_amount_iff (d : Decimal) :
    Rule.holds .amount (.money d) = true ↔ 0 ≤ d.value ∧ ∃ z : ℤ, 100 * d.value = z := by
  rw [← Decimal.isNeg_eq_false_iff, ← Amount.fitsScale_iff, ← @Amount.check_eq_ok "" d]
  simp only [Rule.holds]
  cases Amount.check "" d <;> simp [Except.toBool]

-- Whatever the field it names, the journal's amount check passes exactly the amounts the rule
-- keeps.
theorem Amount.check_eq_ok_iff_holds (field : String) (d : Decimal) :
    Amount.check field d = .ok () ↔ Rule.holds .amount (.money d) = true := by
  rw [Rule.holds_amount_iff, Amount.check_eq_ok, Decimal.isNeg_eq_false_iff, Amount.fitsScale_iff]

-- A clean line names an account and has two amounts the journal's own checks pass.
theorem LineRequest.Clean.checks {l : LineRequest} (clean : l.Clean) :
    l.code ≠ "" ∧ (∀ field, Amount.check field l.debit = .ok ()) ∧
      ∀ field, Amount.check field l.credit = .ok () := by
  have code := (Field.broken_eq_none_of_checked rfl rfl).mp
    (clean ⟨"AccountCode", some (.text l.code), [.required, .maxLen 50], false⟩ (by simp [LineRequest.fields]))
    .required List.mem_cons_self
  have debit := (Field.broken_eq_none_of_checked rfl rfl).mp
    (clean ⟨"DebitAmount", some (.money l.debit), [.amount], false⟩ (by simp [LineRequest.fields]))
    .amount List.mem_cons_self
  have credit := (Field.broken_eq_none_of_checked rfl rfl).mp
    (clean ⟨"CreditAmount", some (.money l.credit), [.amount], false⟩ (by simp [LineRequest.fields]))
    .amount List.mem_cons_self
  refine ⟨by simpa [Rule.holds] using code, fun field => ?_, fun field => ?_⟩
  · exact (Amount.check_eq_ok_iff_holds field _).mpr debit
  · exact (Amount.check_eq_ok_iff_holds field _).mpr credit

end Rules

end Ledger
