import Ledger.Proofs.FieldRules
import Ledger.Proofs.Identifiers
import Ledger.Proofs.Reparenting

-- Opening an account. The chart checks, in order: that the caller names a tenant; the
-- request's field rules, refusing at the first broken field; that a parent code, when one is
-- given, names an account of the tenant; and that the tenant's code is free. A request that
-- passes is opened as an active account whose balance is its opening balance, on the side the
-- request names or else its type's usual side. The chart's own type, side and amount checks
-- never fire after the field rules, which keep exactly what those checks accept; and in a state
-- a session reaches a new account's identifier is always free.

namespace Ledger

-- The tenant has an account under the code.
def Books.Names (b : Books) (tenant code : String) : Prop :=
  ∃ a, b.account? (accountKey tenant code) = some a ∧ a.tenant = tenant

namespace AccountRequest

-- The parent code a request gives; none given and an empty one both make a root.
def parentCode (req : AccountRequest) : String := req.parent.getD ""

-- No field of the request breaks a rule.
def Clean (req : AccountRequest) : Prop := ∀ f ∈ req.fields, f.broken = none

-- Why opening an account is refused, in the order the chart checks.
inductive Refused (b : Books) (tenant : String) (req : AccountRequest) : Fault → Prop
  | tenant (empty : tenant = "") : Refused b tenant req .tenantRequired
  | field (given : tenant ≠ "") {v : Violation} (first : FirstBroken "CreateAccountRequest." req.fields v) :
      Refused b tenant req (.fieldRule v.path v.rule.tag)
  | parentMissing (given : tenant ≠ "") (clean : req.Clean) (named : req.parentCode ≠ "")
      (missing : b.account? (accountKey tenant req.parentCode) = none) :
      Refused b tenant req (.parentMissing req.parentCode)
  | foreignParent (given : tenant ≠ "") (clean : req.Clean) (named : req.parentCode ≠ "") {a : Account}
      (found : b.account? (accountKey tenant req.parentCode) = some a) (foreign : a.tenant ≠ tenant) :
      Refused b tenant req (.foreignParent req.parentCode)
  | duplicate (given : tenant ≠ "") (clean : req.Clean)
      (placed : req.parentCode = "" ∨ b.Names tenant req.parentCode)
      (taken : b.account? (accountKey tenant req.code) ≠ none) :
      Refused b tenant req (.duplicateCode req.code)

-- A request the chart opens.
structure Opens (b : Books) (tenant : String) (req : AccountRequest) : Prop where
  given : tenant ≠ ""
  clean : req.Clean
  placed : req.parentCode = "" ∨ b.Names tenant req.parentCode
  free : b.account? (accountKey tenant req.code) = none

end AccountRequest

-- What opening an account did: it stored, after the others, an active account of the caller's
-- tenant with the request's code, texts, type and cash-flow flag, on the side the request names
-- or else its type's usual side, under the parent it names, a level below it, with the opening
-- balance as its balance and the next identifier; and it touched nothing else.
structure Office.OpenedAs (o o' : Office) (c : Ctx) (req : AccountRequest) (a : Account) : Prop where
  tenant : a.tenant = c.tenant
  code : a.code = req.code
  name : a.name = req.name
  description : a.description = req.description
  type : AccountType.ofName? req.type = some a.type
  sideNamed : req.side ≠ "" → Side.ofName? req.side = some a.side
  sideDefault : req.side = "" → a.side = a.type.normalSide
  parent : a.parent = req.parentCode
  level : (req.parentCode = "" ∧ a.level = 0) ∨
    ∃ p, o.books.account? (accountKey c.tenant req.parentCode) = some p ∧ p.tenant = c.tenant ∧
      a.level = p.level + 1
  active : a.active = true
  balance : a.opening = req.opening ∧ a.balance = req.opening
  cashFlow : a.cashFlow = req.cashFlow
  id : a.id = Office.idNumbered (o.issued + 1)
  stored : o'.books.accounts = o.books.accounts ++ [a]
  entries : o'.books.entries = o.books.entries
  quiet : o'.events = o.events

section Parsing

variable {req : AccountRequest}

-- The field rules keep exactly what the chart's own checks accept: a clean request names a
-- type, names a side when it gives one, and has an opening balance the amount check passes.
theorem AccountRequest.Clean.parses (clean : req.Clean) :
    (∃ t, AccountType.ofName? req.type = some t) ∧ (req.side ≠ "" → ∃ s, Side.ofName? req.side = some s) ∧
      Amount.check "opening balance" req.opening = .ok () := by
  have typed := (Field.broken_eq_none_of_checked rfl rfl).mp
    (clean ⟨"AccountType", some (.text req.type), [.required, .accountType], false⟩
      (by simp [AccountRequest.fields])) .accountType (by simp)
  have sided := (Field.broken_eq_none_of_checked rfl rfl).mp
    (clean ⟨"NormalSide", some (.text req.side), [.normalSide], false⟩ (by simp [AccountRequest.fields]))
    .normalSide List.mem_cons_self
  have opening := (Field.broken_eq_none_of_checked rfl rfl).mp
    (clean ⟨"OpeningBalance", some (.money req.opening), [.amount], false⟩ (by simp [AccountRequest.fields]))
    .amount List.mem_cons_self
  refine ⟨Option.isSome_iff_exists.mp typed, fun named => ?_, (Amount.check_eq_ok_iff_holds _ _).mpr opening⟩
  have given : req.side.isEmpty = false := by simpa using named
  simp only [Rule.holds, given, Bool.false_or] at sided
  exact Option.isSome_iff_exists.mp sided

end Parsing

section Admission

variable {b : Books} {c : Ctx} {req : AccountRequest}

-- A parent lookup finds the tenant's account under the code, and otherwise says why not.
theorem parentByCode_eq_ok_iff {tenant code : String} {p : Account} :
    Office.parentByCode b tenant code = .ok p ↔ b.account? (accountKey tenant code) = some p ∧ p.tenant = tenant := by
  unfold Office.parentByCode
  cases b.account? (accountKey tenant code) with
  | none => simp
  | some a =>
    by_cases own : a.tenant = tenant
    · simp only [own, bne_self_eq_false, Bool.false_eq_true, if_false, Except.ok.injEq, Option.some.injEq]
      constructor
      · rintro rfl
        exact ⟨rfl, own⟩
      · rintro ⟨rfl, _⟩
        rfl
    · simp only [own, bne_iff_ne, ne_eq, not_false_eq_true, if_true, reduceCtorEq, false_iff, not_and,
        Option.some.injEq]
      rintro rfl
      exact own

theorem parentByCode_of_none {tenant code : String} (missing : b.account? (accountKey tenant code) = none) :
    Office.parentByCode b tenant code = .error (.parentMissing code) := by
  rw [Office.parentByCode, missing]

theorem parentByCode_of_foreign {tenant code : String} {a : Account}
    (found : b.account? (accountKey tenant code) = some a) (foreign : a.tenant ≠ tenant) :
    Office.parentByCode b tenant code = .error (.foreignParent code) := by
  rw [Office.parentByCode, found]
  simp [foreign]

-- A clean request of a named tenant is admitted as its parent code says: a root, or the child
-- of the tenant's account the code names, a level below it.
theorem admitAccount_of_clean (given : c.tenant ≠ "") (clean : req.Clean) :
    ∃ t s, AccountType.ofName? req.type = some t ∧ (req.side ≠ "" → Side.ofName? req.side = some s) ∧
      (req.side = "" → s = t.normalSide) ∧
      Office.admitAccount b c req =
        if req.parentCode = "" then .ok (t, s, "", 0)
        else (Office.parentByCode b c.tenant req.parentCode).map fun p => (t, s, req.parentCode, p.level + 1) := by
  obtain ⟨⟨t, typed⟩, sided, opening⟩ := clean.parses
  have named : c.tenant.isEmpty = false := by simpa using given
  have none := AccountRequest.violation_eq_none_iff.mpr clean
  by_cases blank : req.side = ""
  · refine ⟨t, t.normalSide, typed, fun named => absurd blank named, fun _ => rfl, ?_⟩
    have empty : req.side.isEmpty = true := by rw [blank]; rfl
    unfold Office.admitAccount AccountRequest.parentCode
    cases parent : req.parent with
    | none => simp [named, none, typed, empty, opening, pure, Except.pure, bind, Except.bind]
    | some p =>
      by_cases root : p = ""
      · simp [named, none, typed, empty, opening, root, pure, Except.pure, bind, Except.bind]
      · have rooted : p.isEmpty = false := by simpa using root
        cases found : Office.parentByCode b c.tenant p <;>
          simp [named, none, typed, empty, opening, rooted, root, found, Except.map, pure, Except.pure, bind,
            Except.bind]
  · obtain ⟨s, parsed⟩ := sided blank
    refine ⟨t, s, typed, fun _ => parsed, fun empty => absurd empty blank, ?_⟩
    have full : req.side.isEmpty = false := by simpa using blank
    unfold Office.admitAccount AccountRequest.parentCode
    cases parent : req.parent with
    | none => simp [named, none, typed, full, parsed, opening, pure, Except.pure, bind, Except.bind]
    | some p =>
      by_cases root : p = ""
      · simp [named, none, typed, full, parsed, opening, root, pure, Except.pure, bind, Except.bind]
      · have rooted : p.isEmpty = false := by simpa using root
        cases found : Office.parentByCode b c.tenant p <;>
          simp [named, none, typed, full, parsed, opening, rooted, root, found, Except.map, pure, Except.pure,
            bind, Except.bind]

-- Past the tenant, the chart refuses before storing exactly for a broken field or a parent code
-- that names no account of the tenant.
theorem admitAccount_eq_error_iff (given : c.tenant ≠ "") {f : Fault} :
    Office.admitAccount b c req = .error f ↔
      (∃ v, FirstBroken "CreateAccountRequest." req.fields v ∧ f = .fieldRule v.path v.rule.tag) ∨
        req.Clean ∧ req.parentCode ≠ "" ∧
          (b.account? (accountKey c.tenant req.parentCode) = none ∧ f = .parentMissing req.parentCode ∨
            (∃ a, b.account? (accountKey c.tenant req.parentCode) = some a ∧ a.tenant ≠ c.tenant) ∧
              f = .foreignParent req.parentCode) := by
  cases violated : req.violation with
  | some v =>
    have named : c.tenant.isEmpty = false := by simpa using given
    have dirty : ¬ req.Clean := (AccountRequest.violation_eq_some_iff.mp violated).not_clean
    have refusal : Office.admitAccount b c req = .error (.fieldRule v.path v.rule.tag) := by
      simp [Office.admitAccount, named, violated, throw, throwThe, MonadExceptOf.throw, bind, Except.bind]
    rw [refusal, Except.error.injEq]
    constructor
    · rintro rfl
      exact .inl ⟨v, AccountRequest.violation_eq_some_iff.mp violated, rfl⟩
    · rintro (⟨v', first, rfl⟩ | ⟨clean, _⟩)
      · cases (AccountRequest.violation_eq_some_iff.mpr first).symm.trans violated
        rfl
      · exact absurd clean dirty
  | none =>
    have clean : req.Clean := AccountRequest.violation_eq_none_iff.mp violated
    have notFirst : ∀ v, ¬ FirstBroken "CreateAccountRequest." req.fields v := fun v first => by
      rw [AccountRequest.violation_eq_some_iff.mpr first] at violated
      cases violated
    obtain ⟨t, s, _, _, _, admitted⟩ := admitAccount_of_clean (b := b) given clean
    rw [admitted]
    by_cases root : req.parentCode = ""
    · simp [root, notFirst]
    · rw [if_neg root]
      cases found : b.account? (accountKey c.tenant req.parentCode) with
      | none => simp [parentByCode_of_none found, Except.map, notFirst, clean, root, eq_comm]
      | some a =>
        by_cases own : a.tenant = c.tenant
        · simp [(parentByCode_eq_ok_iff.mpr ⟨found, own⟩), Except.map, notFirst, own]
        · simp [parentByCode_of_foreign found own, Except.map, notFirst, clean, root, own]
          exact eq_comm

theorem admitAccount_of_empty (empty : c.tenant = "") : Office.admitAccount b c req = .error .tenantRequired := by
  have blank : c.tenant.isEmpty = true := by rw [empty]; rfl
  simp [Office.admitAccount, blank, throw, throwThe, MonadExceptOf.throw, bind, Except.bind]

-- Past the tenant, the chart admits a request exactly when it is clean and its parent code, if
-- any, names an account of the tenant.
theorem admitAccount_isOk_iff (given : c.tenant ≠ "") :
    (∃ r, Office.admitAccount b c req = .ok r) ↔
      req.Clean ∧ (req.parentCode = "" ∨ b.Names c.tenant req.parentCode) := by
  constructor
  · rintro ⟨r, admitted⟩
    have clean : req.Clean := AccountRequest.violation_eq_none_iff.mp (Office.admitAccount_eq_ok admitted).1
    obtain ⟨_, _, _, _, _, opened⟩ := admitAccount_of_clean (b := b) given clean
    rw [opened] at admitted
    refine ⟨clean, ?_⟩
    by_cases root : req.parentCode = ""
    · exact .inl root
    · rw [if_neg root] at admitted
      cases found : Office.parentByCode b c.tenant req.parentCode with
      | error f => rw [found] at admitted; cases admitted
      | ok p => exact .inr ⟨p, parentByCode_eq_ok_iff.mp found⟩
  · rintro ⟨clean, placed⟩
    obtain ⟨_, _, _, _, _, opened⟩ := admitAccount_of_clean (b := b) given clean
    rw [opened]
    by_cases root : req.parentCode = ""
    · exact ⟨_, if_pos root⟩
    · obtain ⟨p, found, own⟩ := placed.resolve_left root
      rw [if_neg root, parentByCode_eq_ok_iff.mpr ⟨found, own⟩]
      exact ⟨_, rfl⟩

-- Once a request is admitted, a taken code is the only refusal left.
theorem AccountRequest.Refused.of_admitted {tenant : String} {f : Fault} (refused : req.Refused b tenant f)
    (given : tenant ≠ "") (clean : req.Clean) (placed : req.parentCode = "" ∨ b.Names tenant req.parentCode) :
    f = .duplicateCode req.code ∧ b.account? (accountKey tenant req.code) ≠ none := by
  cases refused with
  | tenant blank => exact absurd blank given
  | field _ first => exact absurd clean (first.not_clean)
  | parentMissing _ _ named missing =>
    obtain ⟨p, found, _⟩ := placed.resolve_left named
    rw [missing] at found
    cases found
  | foreignParent _ _ named found foreign =>
    obtain ⟨p, found', own⟩ := placed.resolve_left named
    rw [found] at found'
    cases found'
    exact absurd own foreign
  | duplicate _ _ _ taken => exact ⟨rfl, taken⟩

-- Without a tenant, the tenant is the only refusal.
theorem AccountRequest.Refused.eq_tenantRequired {tenant : String} {f : Fault} (refused : req.Refused b tenant f)
    (empty : tenant = "") : f = .tenantRequired := by
  cases refused with
  | tenant => rfl
  | field given | parentMissing given | foreignParent given | duplicate given => exact absurd empty given

end Admission

namespace Office

variable {o : Office} {c : Ctx} {req : AccountRequest}

theorem registerAccount_of_refused {f : Fault} (refused : admitAccount o.books c req = .error f) :
    o.registerAccount c req = (.error f, o) := by
  simp [registerAccount, refused]

-- An admitted request is stored exactly when its key is free, the identifier being fresh.
theorem registerAccount_admitted (ids : o.IdsIssued) (unique : Function.Injective o.ids)
    {r : AccountType × Side × String × Nat}
    (admitted : admitAccount o.books c req = .ok r) :
    (∃ a, (o.registerAccount c req).1 = .ok a) ∨
      o.books.account? (accountKey c.tenant req.code) ≠ none ∧
        (o.registerAccount c req).1 = .error (.duplicateCode req.code) := by
  obtain ⟨t, s, parent, level⟩ := r
  have fresh : o.books.accountIDs.lookup (o.ids (o.issued + 1)) = none := by
    simpa [Books.accountById?] using ids.fresh unique
  unfold registerAccount
  simp only [admitted, freshId]
  cases added : o.books.addAccount
      { id := o.ids (o.issued + 1), tenant := c.tenant, code := req.code, name := req.name,
        description := req.description, type := t, side := s, parent, level, active := true,
        cashFlow := req.cashFlow, opening := req.opening, balance := req.opening,
        audit := Audit.new c.user c.now } with
  | ok books => exact .inl ⟨_, rfl⟩
  | error f =>
    right
    unfold Books.addAccount at added
    split at added
    · rename_i taken
      cases added
      exact ⟨fun free => by simp [Account.key, free] at taken, rfl⟩
    · split at added
      · rename_i clash
        simp [fresh] at clash
      · cases added

-- An opened account is the one the admitted request describes, under the next identifier.
theorem registerAccount_eq_ok {a : Account} (opened : (o.registerAccount c req).1 = .ok a) :
    ∃ t s parent level, admitAccount o.books c req = .ok (t, s, parent, level) ∧
      a = { id := o.ids (o.issued + 1), tenant := c.tenant, code := req.code,
            name := req.name, description := req.description, type := t, side := s, parent, level,
            active := true, cashFlow := req.cashFlow, opening := req.opening, balance := req.opening,
            audit := Audit.new c.user c.now } := by
  unfold registerAccount at opened
  cases admitted : admitAccount o.books c req with
  | error f => rw [admitted] at opened; cases opened
  | ok r =>
    obtain ⟨t, s, parent, level⟩ := r
    simp only [admitted, freshId] at opened
    split at opened
    · cases opened
    · cases opened
      exact ⟨t, s, parent, level, rfl, rfl⟩

-- An opened account belongs to a named tenant, under a code the tenant had free.
theorem registerAccount_given {a : Account} (opened : (o.registerAccount c req).1 = .ok a) : c.tenant ≠ "" := by
  intro empty
  rw [registerAccount_of_refused (admitAccount_of_empty empty)] at opened
  cases opened

theorem registerAccount_free {a : Account} (opened : (o.registerAccount c req).1 = .ok a) :
    o.books.account? (accountKey c.tenant req.code) = none := by
  obtain ⟨free, _, tenant, code, _⟩ := registerAccount_ok opened
  rwa [Account.key, tenant, code] at free

theorem registerAccount_openedAs (numbered : o.ids = idNumbered) {a : Account}
    (opened : (o.registerAccount c req).1 = .ok a) :
    o.OpenedAs (o.registerAccount c req).2 c req a := by
  have given := registerAccount_given opened
  obtain ⟨_, _, _, _, _, _, stored, quiet⟩ := registerAccount_ok opened
  obtain ⟨t', s', parent, level, admitted, rfl⟩ := registerAccount_eq_ok opened
  obtain ⟨clean, _⟩ := (admitAccount_isOk_iff given).mp ⟨_, admitted⟩
  obtain ⟨t, s, typed, named, default, equation⟩ := admitAccount_of_clean (b := o.books) given clean
  rw [equation] at admitted
  -- the type, side, parent and level stored are those admission settled on
  by_cases root : req.parentCode = ""
  · rw [if_pos root] at admitted
    cases admitted
    exact ⟨rfl, rfl, rfl, rfl, typed, named, default, root.symm, .inl ⟨root, rfl⟩, rfl, ⟨rfl, rfl⟩, rfl,
      congrFun numbered _, by rw [stored], by rw [stored], quiet⟩
  · rw [if_neg root] at admitted
    cases found : parentByCode o.books c.tenant req.parentCode with
    | error f => rw [found] at admitted; cases admitted
    | ok p =>
      rw [found] at admitted
      cases admitted
      obtain ⟨located, own⟩ := parentByCode_eq_ok_iff.mp found
      exact ⟨rfl, rfl, rfl, rfl, typed, named, default, rfl, .inr ⟨p, located, own, rfl⟩, rfl, ⟨rfl, rfl⟩,
        rfl, congrFun numbered _, by rw [stored], by rw [stored], quiet⟩

section Reachable

variable (ids : o.IdsIssued) (unique : Function.Injective o.ids)
include ids unique

-- In a state whose identifiers were all issued, a request is refused exactly as `Refused` says.
theorem registerAccount_error_iff {f : Fault} :
    (o.registerAccount c req).1 = .error f ↔ req.Refused o.books c.tenant f := by
  by_cases empty : c.tenant = ""
  · rw [registerAccount_of_refused (admitAccount_of_empty empty), Except.error.injEq]
    constructor
    · rintro rfl
      exact .tenant empty
    · intro refused
      exact (refused.eq_tenantRequired empty).symm
  cases admitted : admitAccount o.books c req with
  | error f' =>
    rw [registerAccount_of_refused admitted, Except.error.injEq]
    constructor
    · rintro rfl
      rcases (admitAccount_eq_error_iff empty).mp admitted with
        ⟨v, first, rfl⟩ | ⟨clean, named, ⟨missing, rfl⟩ | ⟨⟨a, found, foreign⟩, rfl⟩⟩
      · exact .field empty first
      · exact .parentMissing empty clean named missing
      · exact .foreignParent empty clean named found foreign
    · intro refused
      apply Except.error.inj
      rw [← admitted]
      refine (admitAccount_eq_error_iff empty).mpr ?_
      cases refused with
      | tenant blank => exact absurd blank empty
      | field _ first => exact .inl ⟨_, first, rfl⟩
      | parentMissing _ clean named missing => exact .inr ⟨clean, named, .inl ⟨missing, rfl⟩⟩
      | foreignParent _ clean named found foreign => exact .inr ⟨clean, named, .inr ⟨⟨_, found, foreign⟩, rfl⟩⟩
      | duplicate _ clean placed =>
        -- a clean request with a placed parent is admitted
        obtain ⟨r, passed⟩ := (admitAccount_isOk_iff empty).mpr ⟨clean, placed⟩
        rw [passed] at admitted
        cases admitted
  | ok r =>
    -- admitted: only a taken code can refuse it
    obtain ⟨clean, placed⟩ := (admitAccount_isOk_iff empty).mp ⟨r, admitted⟩
    rcases registerAccount_admitted ids unique admitted with ⟨a, opened⟩ | ⟨taken, refused⟩
    · rw [opened]
      refine ⟨(fun same => by cases same), fun refusal => ?_⟩
      exact absurd (registerAccount_free opened) (refusal.of_admitted empty clean placed).2
    · rw [refused, Except.error.injEq]
      constructor
      · rintro rfl
        exact .duplicate empty clean placed taken
      · intro refusal
        exact (refusal.of_admitted empty clean placed).1.symm

-- In such a state a request is opened exactly when the chart admits it and its code is free.
theorem registerAccount_isOk_iff : (∃ a, (o.registerAccount c req).1 = .ok a) ↔ req.Opens o.books c.tenant := by
  constructor
  · rintro ⟨a, opened⟩
    have given := registerAccount_given opened
    obtain ⟨_, _, _, _, admitted, _⟩ := registerAccount_eq_ok opened
    obtain ⟨clean, placed⟩ := (admitAccount_isOk_iff given).mp ⟨_, admitted⟩
    exact ⟨given, clean, placed, registerAccount_free opened⟩
  · intro opens
    obtain ⟨r, admitted⟩ := (admitAccount_isOk_iff opens.given).mpr ⟨opens.clean, opens.placed⟩
    rcases registerAccount_admitted ids unique admitted with opened | ⟨taken, _⟩
    · exact opened
    · exact absurd opens.free taken

end Reachable

end Office

-- Opening an account checks in order. In every state a session reaches, a request is refused
-- exactly as `Refused` says: without a tenant; at its first broken field; for a parent code
-- under which the tenant has no account, as missing or as another tenant's; or for a taken
-- code, so a taken code under a missing parent is refused for the parent. Every other request is
-- opened, as `OpenedAs` says, and a refused one stores nothing. The chart's own type, side and
-- amount checks accept every clean request, so they never refuse one.
theorem account_opening_checks_in_order (pageSize : Nat) (calls : List Call) (c : Ctx)
    (req : AccountRequest) :
    let o := (Office.start pageSize).run calls
    (∀ f, (o.registerAccount c req).1 = .error f ↔ req.Refused o.books c.tenant f) ∧
      ((∃ a, (o.registerAccount c req).1 = .ok a) ↔ req.Opens o.books c.tenant) ∧
      (∀ f, (o.registerAccount c req).1 = .error f → (o.registerAccount c req).2.books = o.books) ∧
      (∀ a, (o.registerAccount c req).1 = .ok a → o.OpenedAs (o.registerAccount c req).2 c req a) ∧
      (req.Clean → (∃ t, AccountType.ofName? req.type = some t) ∧
        (req.side ≠ "" → ∃ s, Side.ofName? req.side = some s) ∧
        Amount.check "opening balance" req.opening = .ok ()) := by
  intro o
  have ids : o.IdsIssued := Office.run_idsIssued pageSize Office.idNumbered calls
  have numbered : o.ids = Office.idNumbered := Office.run_generator _ calls
  have unique : Function.Injective o.ids := numbered ▸ idNumbered_injective
  exact ⟨fun _ => Office.registerAccount_error_iff ids unique, Office.registerAccount_isOk_iff ids unique,
    fun _ failed => (Office.registerAccount_error failed).1,
    fun _ opened => Office.registerAccount_openedAs numbered opened,
    AccountRequest.Clean.parses⟩

-- A second account with a taken code, under a parent code no account has, is refused for the
-- missing parent.
theorem taken_code_under_missing_parent_refused_for_parent :
    let o := (Office.start 20).run
      [.registerAccount ⟨"T1", "u1", Timestamp.zero⟩ { code := "1000", name := "Cash", type := "ASSET" }]
    let req : AccountRequest := { code := "1000", name := "Petty cash", type := "ASSET", parent := some "9999" }
    (o.registerAccount ⟨"T1", "u1", Timestamp.zero⟩ req).1 = .error (.parentMissing "9999") ∧
      req.Refused o.books "T1" (.parentMissing "9999") := by
  intro o req
  have refused : (o.registerAccount ⟨"T1", "u1", Timestamp.zero⟩ req).1 = .error (.parentMissing "9999") := by
    decide +kernel
  exact ⟨refused, ((account_opening_checks_in_order 20 _ _ req).1 _).mp refused⟩

end Ledger
