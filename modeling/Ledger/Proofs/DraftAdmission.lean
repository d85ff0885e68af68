import Ledger.Proofs.FieldRules
import Ledger.Proofs.Numbering

-- Which draft requests the journal stores. It checks, in order: that the caller names a
-- tenant; the request's field rules, refusing at the first broken field; that there are two
-- lines at least; that each line has exactly one non-zero amount, refusing at the first line
-- that has not; and that the debits and credits sum to one value. A request that passes all of
-- them is stored as a draft, with its lines numbered from one in request order, and in a state
-- a session reaches nothing else can refuse it. The line check's own code and amount checks
-- never fire after the field rules: a clean line names an account and carries amounts the
-- amount check passes.

namespace Ledger

-- Exactly one of the line's amounts is non-zero.
def LineRequest.OneSided (l : LineRequest) : Prop := Xor (l.debit.value ≠ 0) (l.credit.value ≠ 0)

-- What a stored line keeps of the request line it was built from: all but its number and the
-- account's name.
def Line.asked (l : Line) : LineRequest :=
  { code := l.code, debit := l.debit, credit := l.credit, description := l.description,
    costCenter := l.costCenter, projectCode := l.projectCode, relatedRef := l.relatedRef }

namespace EntryRequest

-- Why a draft request is refused, in the order the journal checks.
inductive Refused (tenant : String) (req : EntryRequest) : Fault → Prop
  | tenant (empty : tenant = "") : Refused tenant req .tenantRequired
  | field (given : tenant ≠ "") {v : Violation} (first : req.FirstBroken v) :
      Refused tenant req (.fieldRule v.path v.rule.tag)
  | tooFew (given : tenant ≠ "") (clean : req.Clean) (few : req.lines.length < 2) :
      Refused tenant req (.tooFewLines req.lines.length)
  | oneSided (given : tenant ≠ "") (clean : req.Clean) (enough : 2 ≤ req.lines.length)
      {pre post : List LineRequest} {l : LineRequest} (split : req.lines = pre ++ l :: post)
      (before : ∀ l' ∈ pre, l'.OneSided) (both : ¬ l.OneSided) :
      Refused tenant req (.line (pre.length + 1) .oneSided)
  | unbalanced (given : tenant ≠ "") (clean : req.Clean) (enough : 2 ≤ req.lines.length)
      (each : ∀ l ∈ req.lines, l.OneSided)
      (unequal : (req.lines.map (·.debit.value)).sum ≠ (req.lines.map (·.credit.value)).sum) :
      Refused tenant req
        (.unbalanced (sumAmounts (req.lines.map (·.debit))) (sumAmounts (req.lines.map (·.credit))))

-- A draft request the journal stores.
structure Admissible (tenant : String) (req : EntryRequest) : Prop where
  given : tenant ≠ ""
  clean : req.Clean
  enough : 2 ≤ req.lines.length
  oneSided : ∀ l ∈ req.lines, l.OneSided
  balanced : (req.lines.map (·.debit.value)).sum = (req.lines.map (·.credit.value)).sum

end EntryRequest

-- What storing a draft did: it numbered the draft next in its voucher's sequence in the caller's
-- tenant, took its date (now, when none is given), voucher, texts and lines from the request, the
-- lines numbered from one in request order, totalled both columns, and appended it to the
-- entries, touching no account and announcing nothing.
structure Office.DraftedAs (o o' : Office) (c : Ctx) (req : EntryRequest) (e : Entry) : Prop where
  number : e.number = Office.entryNumber (Office.voucherPrefix req.voucher)
    (o.books.lastNumber c.tenant (Office.voucherPrefix req.voucher) + 1)
  tenant : e.tenant = c.tenant
  draft : e.status = .draft
  date : e.date = if req.date.isZero then c.now else req.date
  voucher : e.voucher = Office.voucherPrefix req.voucher
  description : e.description = req.description
  reference : e.reference = req.reference
  numbered : e.lines.map (·.number) = (List.range req.lines.length).map fun i : Nat => (i : Int) + 1
  asked : e.lines.map Line.asked = req.lines
  unnamed : ∀ l ∈ e.lines, l.accountName = ""
  totalDebit : e.totalDebit.value = (req.lines.map (·.debit.value)).sum
  totalCredit : e.totalCredit.value = (req.lines.map (·.credit.value)).sum
  unposted : e.postedBy = "" ∧ e.postedAt = none ∧ e.reversalOf = "" ∧ e.reversedBy = ""
  stored : o'.books.entries = o.books.entries ++ [e]
  accounts : o'.books.accounts = o.books.accounts
  quiet : o'.events = o.events

section Built

variable {req : EntryRequest}

theorem buildLines_length : (Office.buildLines req).length = req.lines.length := by
  simp [Office.buildLines]

theorem buildLines_asked : (Office.buildLines req).map Line.asked = req.lines := by
  rw [Office.buildLines, map_zip_range _ _ _ id fun _ _ => rfl, List.map_id]

theorem buildLines_numbered :
    (Office.buildLines req).map (·.number) = (List.range req.lines.length).map fun i : Nat => (i : Int) + 1 := by
  have firsts : ((List.range req.lines.length).zip req.lines).map Prod.fst = List.range req.lines.length :=
    List.map_fst_zip (by simp)
  rw [Office.buildLines, List.map_map]
  calc _ = (((List.range req.lines.length).zip req.lines).map Prod.fst).map fun i : Nat => (i : Int) + 1 := by
        rw [List.map_map]
        rfl
    _ = _ := by rw [firsts]

theorem buildLines_unnamed : ∀ l ∈ Office.buildLines req, l.accountName = "" := by
  intro l member
  obtain ⟨_, _, _, rfl⟩ := mem_zip_range member
  rfl

-- The debits and credits of the built lines are the request's, line by line.
theorem buildLines_amounts :
    (Office.buildLines req).map (·.debit) = req.lines.map (·.debit) ∧
      (Office.buildLines req).map (·.credit) = req.lines.map (·.credit) :=
  ⟨map_zip_range _ _ _ _ fun _ _ => rfl, map_zip_range _ _ _ _ fun _ _ => rfl⟩

-- Cutting the request's lines at one line cuts the built lines at the line built from it,
-- numbered after its position.
theorem buildLines_split {pre post : List LineRequest} {l : LineRequest}
    (split : req.lines = pre ++ l :: post) :
    ∃ front x back, Office.buildLines req = front ++ x :: back ∧ front.map Line.asked = pre ∧
      x.asked = l ∧ x.number = (pre.length : Int) + 1 := by
  have range : List.range (pre ++ l :: post).length =
      List.range pre.length ++ pre.length :: List.range' (pre.length + 1) post.length := by
    rw [List.length_append, List.length_cons, List.range_eq_range', List.range_eq_range',
      ← List.range'_append, List.range'_succ]
    simp
  rw [Office.buildLines, split, range, List.zip_append (by simp), List.zip_cons_cons, List.map_append,
    List.map_cons]
  exact ⟨_, _, _, rfl, by rw [map_zip_range _ _ _ id fun _ _ => rfl, List.map_id], rfl, rfl⟩

end Built

section LineCheck

-- A check over a list fails with the first item that fails it.
theorem forM_split_error {α ε : Type} {g : α → Except ε Unit} {front back : List α} {x : α} {e : ε}
    (passed : ∀ y ∈ front, g y = .ok ()) (failed : g x = .error e) :
    (front ++ x :: back).forM g = .error e := by
  induction front with
  | nil =>
    rw [List.nil_append, show (x :: back).forM g = (g x >>= fun _ => back.forM g) from rfl, failed]
    rfl
  | cons y rest ih =>
    rw [List.cons_append, show (y :: (rest ++ x :: back)).forM g = (g y >>= fun _ => (rest ++ x :: back).forM g)
      from rfl, passed y List.mem_cons_self]
    exact ih fun z member => passed z (List.mem_cons_of_mem _ member)

-- A line built from a clean request line passes the line check exactly when it is one-sided;
-- its code and amounts were checked by the field rules already.
theorem checkLine_of_clean {x : Line} (clean : x.asked.Clean) :
    (x.asked.OneSided → checkLine x = .ok ()) ∧
      (¬ x.asked.OneSided → checkLine x = .error (.line x.number .oneSided)) := by
  obtain ⟨code, debit, credit⟩ := clean.checks
  have named : x.code.isEmpty = false := by simpa [Line.asked] using code
  have debited : Amount.check "debit amount" x.debit = .ok () := debit _
  have credited : Amount.check "credit amount" x.credit = .ok () := credit _
  have sided : x.asked.OneSided ↔ x.debit.isZero ≠ x.credit.isZero := (isZero_ne_iff_xor x).symm
  unfold checkLine
  constructor
  · intro one
    simp [named, debited, credited, sided.mp one, pure, Except.pure]
  · intro both
    have same : x.debit.isZero = x.credit.isZero := by
      by_contra apart
      exact both (sided.mpr apart)
    simp [named, debited, credited, same, throw, throwThe, MonadExceptOf.throw]

variable {req : EntryRequest}

theorem checkBalance_built_few (few : req.lines.length < 2) :
    checkBalance (Office.buildLines req) = .error (.tooFewLines req.lines.length) := by
  simp [checkBalance, few, buildLines_length, throw, throwThe, MonadExceptOf.throw, bind, Except.bind]

variable (clean : req.Clean)
include clean

-- Past the count, the first line that is not one-sided is the one reported.
theorem checkBalance_built_oneSided (enough : 2 ≤ req.lines.length) {pre post : List LineRequest}
    {l : LineRequest} (split : req.lines = pre ++ l :: post) (before : ∀ l' ∈ pre, l'.OneSided)
    (both : ¬ l.OneSided) :
    checkBalance (Office.buildLines req) = .error (.line (pre.length + 1) .oneSided) := by
  obtain ⟨front, x, back, built, asked, rfl, number⟩ := buildLines_split split
  have lineClean : ∀ l' ∈ req.lines, l'.Clean := clean.2
  -- every line before passes, and the cut line fails
  have passed : ∀ y ∈ front, checkLine y = .ok () := by
    intro y member
    have kept : y.asked ∈ pre := asked ▸ List.mem_map_of_mem member
    exact (checkLine_of_clean (lineClean _ (by rw [split]; exact List.mem_append_left _ kept))).1
      (before _ kept)
  have failed : checkLine x = .error (.line (pre.length + 1) .oneSided) := by
    rw [(checkLine_of_clean (lineClean _ (by rw [split]; simp))).2 both, number]
  have enough' : ¬ (front ++ x :: back).length < 2 := by rw [← built, buildLines_length]; omega
  rw [built]
  simp only [checkBalance, enough', if_false, forM_split_error passed failed, bind, Except.bind]

-- When every line is one-sided, the check passes exactly when the columns sum to one value.
theorem checkBalance_built_sums (enough : 2 ≤ req.lines.length) (each : ∀ l ∈ req.lines, l.OneSided) :
    checkBalance (Office.buildLines req) =
      if (req.lines.map (·.debit.value)).sum = (req.lines.map (·.credit.value)).sum then
        .ok (sumAmounts (req.lines.map (·.debit)), sumAmounts (req.lines.map (·.credit)))
      else .error (.unbalanced (sumAmounts (req.lines.map (·.debit))) (sumAmounts (req.lines.map (·.credit)))) := by
  have passed : (Office.buildLines req).forM checkLine = .ok () := by
    refine forM_eq_ok_of_forall fun y member => ?_
    have kept : y.asked ∈ req.lines := buildLines_asked ▸ List.mem_map_of_mem member
    exact (checkLine_of_clean (clean.2 _ kept)).1 (each _ kept)
  have enough' : ¬ (Office.buildLines req).length < 2 := by rw [buildLines_length]; omega
  obtain ⟨debits, credits⟩ := @buildLines_amounts req
  have same : (sumAmounts (req.lines.map (·.debit))).sameValue (sumAmounts (req.lines.map (·.credit))) =
      decide ((req.lines.map (·.debit.value)).sum = (req.lines.map (·.credit.value)).sum) := by
    rw [Bool.eq_iff_iff, Decimal.sameValue_iff, sumAmounts_value, sumAmounts_value, List.map_map,
      List.map_map, decide_eq_true_iff]
    rfl
  simp only [checkBalance, enough', if_false, passed, debits, credits, same, bind, Except.bind]
  split <;> simp_all [throw, throwThe, MonadExceptOf.throw, pure, Except.pure]

end LineCheck

-- A list not all of whose items have a property has a first item that lacks it.
theorem List.exists_first_not {α : Type} {P : α → Prop} {l : List α} (failing : ¬ ∀ x ∈ l, P x) :
    ∃ pre x post, l = pre ++ x :: post ∧ (∀ y ∈ pre, P y) ∧ ¬ P x := by
  induction l with
  | nil => simp at failing
  | cons x rest ih =>
    by_cases head : P x
    · obtain ⟨pre, y, post, split, before, broken⟩ := ih fun all => failing (List.forall_mem_cons.mpr ⟨head, all⟩)
      exact ⟨x :: pre, y, post, by rw [split]; rfl, List.forall_mem_cons.mpr ⟨head, before⟩, broken⟩
    · exact ⟨[], x, rest, rfl, by simp, head⟩

namespace EntryRequest

variable {req : EntryRequest} {tenant : String}

-- The lines of an admitted request pass the line check, refusing exactly as `Refused` says once
-- the fields are clean.
theorem checkBalance_built_error_iff (given : tenant ≠ "") (clean : req.Clean) {f : Fault} :
    checkBalance (Office.buildLines req) = .error f ↔ req.Refused tenant f := by
  constructor
  · intro refused
    by_cases enough : 2 ≤ req.lines.length
    · by_cases each : ∀ l ∈ req.lines, l.OneSided
      · rw [checkBalance_built_sums clean enough each] at refused
        split at refused
        · cases refused
        · rename_i unequal
          cases refused
          exact .unbalanced given clean enough each unequal
      · obtain ⟨pre, l, post, split, before, both⟩ := List.exists_first_not each
        rw [checkBalance_built_oneSided clean enough split before both] at refused
        cases refused
        exact .oneSided given clean enough split before both
    · rw [checkBalance_built_few (by omega)] at refused
      cases refused
      exact .tooFew given clean (by omega)
  · intro refused
    cases refused with
    | tenant empty => exact absurd empty given
    | field _ first => exact absurd clean first.not_clean
    | tooFew _ _ few => exact checkBalance_built_few few
    | oneSided _ _ enough split before both => exact checkBalance_built_oneSided clean enough split before both
    | unbalanced _ _ enough each unequal => rw [checkBalance_built_sums clean enough each, if_neg unequal]

-- Without a tenant, the tenant is the only refusal.
theorem Refused.eq_tenantRequired {f : Fault} (refused : req.Refused tenant f) (empty : tenant = "") :
    f = .tenantRequired := by
  cases refused with
  | tenant => rfl
  | field given | tooFew given | oneSided given | unbalanced given => exact absurd empty given

-- A draft request is admitted, lines and totals given, exactly when it is admissible.
theorem admitLines_isOk_iff (given : tenant ≠ "") :
    (∃ r, Office.admitLines req = .ok r) ↔ req.Admissible tenant := by
  constructor
  · rintro ⟨⟨lines, debit, credit⟩, admitted⟩
    obtain ⟨none, rfl, checked⟩ := Office.admitLines_eq_ok admitted
    have clean := violation_eq_none_iff.mp none
    -- the lines passed their check, so no refusal past the fields applies
    have passes : ∀ f, ¬ req.Refused tenant f := fun f refused => by
      rw [← checkBalance_built_error_iff given clean, checked] at refused
      cases refused
    have enough : 2 ≤ req.lines.length := by
      by_contra few
      exact passes _ (.tooFew given clean (by omega))
    have each : ∀ l ∈ req.lines, l.OneSided := by
      by_contra lopsided
      obtain ⟨pre, l, post, split, before, both⟩ := List.exists_first_not lopsided
      exact passes _ (.oneSided given clean enough split before both)
    refine ⟨given, clean, enough, each, ?_⟩
    by_contra unequal
    exact passes _ (.unbalanced given clean enough each unequal)
  · intro admissible
    have checked := checkBalance_built_sums admissible.clean admissible.enough admissible.oneSided
    rw [if_pos admissible.balanced] at checked
    refine ⟨(Office.buildLines req, sumAmounts (req.lines.map (·.debit)), sumAmounts (req.lines.map (·.credit))), ?_⟩
    simp [Office.admitLines, violation_eq_none_iff.mpr admissible.clean, checked, bind, Except.bind, pure,
      Except.pure]

-- Past the tenant, a draft request is refused exactly as `Refused` says.
theorem admitLines_error_iff (given : tenant ≠ "") {f : Fault} :
    Office.admitLines req = .error f ↔ req.Refused tenant f := by
  cases violated : req.violation with
  | some v =>
    have refusal : Office.admitLines req = .error (.fieldRule v.path v.rule.tag) := by
      simp [Office.admitLines, violated, throw, throwThe, MonadExceptOf.throw, bind, Except.bind]
    have first := violation_eq_some_iff.mp violated
    rw [refusal, Except.error.injEq]
    constructor
    · rintro rfl
      exact .field given first
    · -- a request with a broken field is refused at that field only
      have dirty := first.not_clean
      intro refused
      cases refused with
      | tenant empty => exact absurd empty given
      | field _ first' =>
        rename_i v'
        have same : some v' = some v := (violation_eq_some_iff.mpr first').symm.trans violated
        cases same
        rfl
      | tooFew _ clean => exact absurd clean dirty
      | oneSided _ clean => exact absurd clean dirty
      | unbalanced _ clean => exact absurd clean dirty
  | none =>
    have clean := violation_eq_none_iff.mp violated
    have admitted : Office.admitLines req = (checkBalance (Office.buildLines req)).map
        fun totals => (Office.buildLines req, totals) := by
      simp only [Office.admitLines, violated, bind, Except.bind, pure, Except.pure]
      cases checkBalance (Office.buildLines req) <;> rfl
    rw [admitted, ← checkBalance_built_error_iff given clean]
    cases checkBalance (Office.buildLines req) <;> simp [Except.map]

end EntryRequest

namespace Office

variable {o : Office} {c : Ctx} {req : EntryRequest}

theorem createDraft_of_empty (empty : c.tenant = "") : o.createDraft c req = (.error .tenantRequired, o) := by
  simp [createDraft, empty, throw, throwThe, MonadExceptOf.throw, bind, Except.bind]

theorem createDraft_of_refused (given : c.tenant ≠ "") {f : Fault} (refused : admitLines req = .error f) :
    o.createDraft c req = (.error f, o) := by
  have named : c.tenant.isEmpty = false := by simpa using given
  simp [createDraft, named, refused]

-- The date, voucher, texts, lines and totals of a stored draft are those of its admitted request.
theorem createDraft_content {e : Entry} (drafted : (o.createDraft c req).1 = .ok e) :
    e.date = (if req.date.isZero then c.now else req.date) ∧ e.voucher = voucherPrefix req.voucher ∧
      e.description = req.description ∧ e.reference = req.reference ∧ e.postedBy = "" ∧
      e.postedAt = none ∧ admitLines req = .ok (e.lines, e.totalDebit, e.totalCredit) := by
  obtain ⟨lines, debit, credit, admitted, rfl, -⟩ := createDraft_eq_ok drafted
  -- read the fields off the built entry first: compared whole, the voucher prefix would be
  -- unfolded before the projection
  dsimp only
  exact ⟨rfl, rfl, rfl, rfl, rfl, rfl, admitted⟩

-- What a stored draft is, from its request.
theorem createDraft_draftedAs {e : Entry} (drafted : (o.createDraft c req).1 = .ok e) :
    o.DraftedAs (o.createDraft c req).2 c req e := by
  obtain ⟨_, tenant, draft, unlinked, unreversed, number, _, books, quiet⟩ := createDraft_ok drafted
  obtain ⟨date, voucher, description, reference, poster, postedAt, admitted⟩ := createDraft_content drafted
  obtain ⟨_, lines, checked⟩ := admitLines_eq_ok admitted
  obtain ⟨_, debits, credits, _⟩ := checkBalance_eq_ok checked
  obtain ⟨builtDebits, builtCredits⟩ := @buildLines_amounts req
  refine ⟨number, tenant, draft, date, voucher, description, reference, ?_, ?_, ?_, ?_, ?_,
    ⟨poster, postedAt, unlinked, unreversed⟩, by rw [books], by rw [books]; rfl, quiet⟩
  · rw [lines, buildLines_numbered]
  · rw [lines, buildLines_asked]
  · rw [lines]
    exact buildLines_unnamed
  · rw [debits, lines, builtDebits, sumAmounts_value, List.map_map]
    rfl
  · rw [credits, lines, builtCredits, sumAmounts_value, List.map_map]
    rfl

section Reachable

variable (sound : o.books.Wellformed)
include sound

-- In well-formed books a draft request is refused only before its number is drawn: for a
-- missing tenant, or as its admission refuses.
theorem createDraft_error_iff {f : Fault} :
    (o.createDraft c req).1 = .error f ↔
      (c.tenant = "" ∧ f = .tenantRequired) ∨ (c.tenant ≠ "" ∧ admitLines req = .error f) := by
  by_cases empty : c.tenant = ""
  · rw [createDraft_of_empty empty, Except.error.injEq]
    simp [empty, eq_comm]
  · cases admitted : admitLines req with
    | error f' =>
      rw [createDraft_of_refused empty admitted, Except.error.injEq]
      simp [empty]
    | ok r =>
      -- an admitted request draws a free number and is stored
      have named : c.tenant.isEmpty = false := by simpa using empty
      obtain ⟨e, drafted⟩ := (createDraft_ok_iff sound c req).mpr (by simp [Call.draws, named, admitted])
      simp [drafted, empty]

theorem createDraft_error_unchanged {f : Fault} (failed : (o.createDraft c req).1 = .error f) :
    (o.createDraft c req).2 = o := by
  rcases (createDraft_error_iff sound).mp failed with ⟨empty, _⟩ | ⟨given, refused⟩
  · rw [createDraft_of_empty empty]
  · rw [createDraft_of_refused given refused]

end Reachable

end Office

-- Drafts are admitted by exactly the line and balance rules. In every state a session reaches,
-- drafting a request is refused exactly as `Refused` says: without a tenant; at the request's
-- first broken field, lines named by position; with fewer than two lines; at the first line
-- without exactly one non-zero amount; or with columns of different sums. Every other request is
-- stored, as `DraftedAs` says, and a refused one leaves the office as it was. The amount rule of
-- the fields keeps exactly the non-negative amounts in whole cents, whatever the decimal's
-- exponent.
theorem drafts_admitted_by_line_and_balance_rules (pageSize : Nat) (calls : List Call) (c : Ctx)
    (req : EntryRequest) :
    let o := (Office.start pageSize).run calls
    (∀ f, (o.createDraft c req).1 = .error f ↔ req.Refused c.tenant f) ∧
      ((∃ e, (o.createDraft c req).1 = .ok e) ↔ req.Admissible c.tenant) ∧
      (∀ f, (o.createDraft c req).1 = .error f → (o.createDraft c req).2 = o) ∧
      (∀ e, (o.createDraft c req).1 = .ok e → o.DraftedAs (o.createDraft c req).2 c req e) ∧
      ∀ d : Decimal, Rule.holds .amount (.money d) = true ↔ 0 ≤ d.value ∧ ∃ z : ℤ, 100 * d.value = z := by
  intro o
  have sound := Office.run_wellformed pageSize calls
  refine ⟨fun f => ?_, ?_, fun _ failed => Office.createDraft_error_unchanged sound failed,
    fun _ drafted => Office.createDraft_draftedAs drafted, Rule.holds_amount_iff⟩
  · rw [Office.createDraft_error_iff sound]
    by_cases empty : c.tenant = ""
    · constructor
      · rintro (⟨_, rfl⟩ | ⟨given, _⟩)
        · exact .tenant empty
        · exact absurd empty given
      · intro refused
        exact .inl ⟨empty, refused.eq_tenantRequired empty⟩
    · rw [← EntryRequest.admitLines_error_iff empty]
      simp [empty]
  · rw [Office.createDraft_ok_iff sound]
    by_cases empty : c.tenant = ""
    · have blank : c.tenant.isEmpty = true := by rw [empty]; rfl
      simp only [Call.draws, blank, if_true, Option.isSome_none, Bool.false_eq_true, false_iff]
      exact fun admissible => admissible.given empty
    · have named : c.tenant.isEmpty = false := by simpa using empty
      rw [← EntryRequest.admitLines_isOk_iff empty]
      simp only [Call.draws, named]
      cases Office.admitLines req <;> simp

-- Amounts of 1.500 and 15e-1 keep the amount rule, both being whole cents, so the request below
-- passes its field rules and is refused at its third line, which carries no amount.
theorem draft_refused_at_line_without_amount :
    let req : EntryRequest := { lines :=
      [{ code := "1000", debit := ⟨1500, -3⟩ }, { code := "4000", credit := ⟨15, -1⟩ }, { code := "5000" }] }
    ((Office.start 20).createDraft ⟨"T1", "u1", Timestamp.zero⟩ req).1 = .error (.line 3 .oneSided) ∧
      req.Refused "T1" (.line 3 .oneSided) := by
  intro req
  have refused : ((Office.start 20).createDraft ⟨"T1", "u1", Timestamp.zero⟩ req).1 =
      .error (.line 3 .oneSided) := by
    decide +kernel
  exact ⟨refused, ((drafts_admitted_by_line_and_balance_rules 20 [] _ req).1 _).mp refused⟩

end Ledger
