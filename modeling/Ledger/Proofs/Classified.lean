import Ledger.Proofs.AccountOpening
import Ledger.Proofs.Numbering
import Ledger.Office.Reports

-- How the services fail. Every failure belongs to a class other than storage, so none is worth
-- retrying, and each answers 403, 404, 409 or 422. Some failures are raised only by the
-- safeguards of the store, its transactions and posting: a taken account identifier or entry
-- key, an entry locked after the accounts, accounts locked twice, a write to a row not locked,
-- and a line that cannot be applied to its held account. From any state a session reaches, no
-- service raises one of those: identifiers and entry numbers are fresh, every transaction body
-- locks what it writes in the order the store asks, and posting checks every line and holds
-- every account before it applies them.

namespace Ledger

namespace Fault

-- Raised only by the safeguards of the store, its transactions or posting, or a failure
-- wrapping one of these.
def internal : Fault → Bool
  | .duplicateAccountId _ | .duplicateEntry _ | .accountAbsent | .atLine _ _ => true
  | .entryAfterAccounts _ | .accountsTwice | .accountNotLocked _ | .entryNotLocked _ => true
  | .walkingHierarchy _ inner => inner.internal
  | .context _ inner => inner.internal
  | _ => false

-- A business error: raised by a service's own checks, of a class other than storage, so not
-- worth retrying, and answered with 403, 404, 409 or 422.
structure Business (f : Fault) : Prop where
  raised : f.internal = false
  classified : ∃ s, f.sentinel = some s ∧ s ≠ .storageUnavailable
  notRetryable : ∀ s, f.sentinel = some s → Sentinel.storageUnavailable ∉ s.within
  status : f.status ∈ [403, 404, 409, 422]

end Fault

theorem Sentinel.storage_mem_within (s : Sentinel) :
    Sentinel.storageUnavailable ∈ s.within ↔ s = .storageUnavailable := by
  cases s <;> decide

theorem Sentinel.status_of_ne_storage (s : Sentinel) : s ≠ .storageUnavailable →
    s.status ∈ [403, 404, 409, 422] := by
  cases s <;> decide

-- No failure is of the storage class, whatever it wraps.
theorem Fault.sentinel_ne_storage (f : Fault) : f.sentinel ≠ some .storageUnavailable := by
  induction f <;> simp_all [sentinel]

-- Only the safeguards' own failures carry no class: every other failure has one.
theorem Fault.sentinel_isSome {f : Fault} (raised : f.internal = false) : f.sentinel.isSome := by
  induction f with
  | walkingHierarchy _ inner ih => exact ih raised
  | context _ inner ih => exact ih raised
  | atLine => cases raised
  | entryAfterAccounts => cases raised
  | accountsTwice => cases raised
  | accountNotLocked => cases raised
  | entryNotLocked => cases raised
  | _ => rfl

theorem Fault.business_of_raised {f : Fault} (raised : f.internal = false) : f.Business := by
  obtain ⟨s, classed⟩ := Option.isSome_iff_exists.mp (f.sentinel_isSome raised)
  have other : s ≠ .storageUnavailable := fun storage => f.sentinel_ne_storage (storage ▸ classed)
  refine ⟨raised, ⟨s, classed, other⟩, fun s' classed' storage => ?_, ?_⟩
  · rw [classed', Option.some.injEq] at classed
    exact other (classed ▸ (Sentinel.storage_mem_within s').mp storage)
  · simpa [Fault.status, classed] using Sentinel.status_of_ne_storage s other

-- A computation that fails, if it fails, with a failure the services raise from their own checks.
def FailsCleanly {α : Type} (x : Except Fault α) : Prop := ∀ f, x = .error f → f.internal = false

namespace FailsCleanly

variable {α β : Type}

theorem ok (a : α) : FailsCleanly (.ok a : Except Fault α) := fun _ failed => by cases failed

theorem refuse {f : Fault} (raised : f.internal = false) : FailsCleanly (.error f : Except Fault α) :=
  fun _ failed => by cases failed; exact raised

-- A refusal stops what follows it.
theorem refuse_bind {f : Fault} (raised : f.internal = false) {g : α → Except Fault β} :
    FailsCleanly ((throw f : Except Fault α) >>= g) :=
  refuse raised

theorem apply {x : Except Fault α} {f : Fault} (clean : FailsCleanly x) (failed : x = .error f) :
    f.internal = false :=
  clean f failed

theorem bind {x : Except Fault α} {g : α → Except Fault β} (first : FailsCleanly x)
    (rest : ∀ a, x = .ok a → FailsCleanly (g a)) : FailsCleanly (x >>= g) := by
  intro f failed
  cases found : x with
  | error f' =>
    rw [found] at failed
    injection failed with same
    exact same ▸ first f' found
  | ok a =>
    rw [found] at failed
    exact rest a found f failed

theorem map {x : Except Fault α} {g : α → β} (clean : FailsCleanly x) : FailsCleanly (x.map g) := by
  intro f failed
  cases found : x with
  | error f' =>
    rw [found] at failed
    injection failed with same
    exact same ▸ clean f' found
  | ok a =>
    rw [found] at failed
    cases failed

theorem ite {c : Prop} [Decidable c] {x y : Except Fault α} (yes : FailsCleanly x) (no : FailsCleanly y) :
    FailsCleanly (if c then x else y) := by
  split
  · exact yes
  · exact no

-- A loop fails, if it fails, as one of its rounds does.
theorem forIn {γ : Type} (l : List α) (init : γ) (body : α → γ → Except Fault (ForInStep γ))
    (each : ∀ a r, FailsCleanly (body a r)) : FailsCleanly (forIn l init body) := by
  induction l generalizing init with
  | nil => exact ok init
  | cons a rest ih =>
    rw [List.forIn_cons]
    refine bind (each a init) fun step _ => ?_
    cases step with
    | done r => exact ok r
    | yield r => exact ih r

end FailsCleanly

namespace Office

variable {b : Books} {tenant : String}

-- Reading the books refuses only a missing or foreign resource or a malformed request.
theorem accountByCode_cleanly (code : Ref) : FailsCleanly (accountByCode b tenant code) := by
  unfold accountByCode
  split
  · exact .refuse rfl
  · exact .ite (.refuse rfl) (.ok _)

theorem parentByCode_cleanly (code : String) : FailsCleanly (parentByCode b tenant code) := by
  unfold parentByCode
  split
  · exact .refuse rfl
  · exact .ite (.refuse rfl) (.ok _)

theorem accountById_cleanly (id : String) : FailsCleanly (accountById b tenant id) := by
  unfold accountById
  split
  · exact .refuse rfl
  · exact .ite (.refuse rfl) (.ok _)

theorem accountsOfType_cleanly (type : String) : FailsCleanly (accountsOfType b tenant type) := by
  unfold accountsOfType
  split
  · exact .refuse rfl
  · exact .ok _

theorem childrenOf_cleanly (code : Ref) : FailsCleanly (childrenOf b tenant code) :=
  .bind (accountByCode_cleanly code) fun _ _ => .ok _

theorem statement_cleanly (code : Ref) : FailsCleanly (statement b tenant code) :=
  .bind (accountByCode_cleanly code) fun _ _ => .ok _

theorem entryByNumber_cleanly (number : Ref) : FailsCleanly (entryByNumber b tenant number) := by
  intro f refused
  rcases entryByNumber_eq_error refused with rfl | rfl <;> rfl

theorem entryById_cleanly (id : String) : FailsCleanly (entryById b tenant id) := by
  unfold entryById
  split
  · exact .refuse rfl
  · exact .ite (.refuse rfl) (.ok _)

theorem listEntries_cleanly (pageSize : Nat) (q : EntryQuery) :
    FailsCleanly (listEntries b pageSize tenant q) := by
  unfold listEntries
  cases q.violation with
  | some v => exact .refuse_bind rfl
  | none =>
    dsimp only
    cases readToken q.token with
    | ok cursor => exact .ok _
    | error e => exact .refuse_bind rfl

-- The chart's checks: the request, the parent, the walk up the hierarchy and the store's own
-- checks of a change.
theorem admitAccount_cleanly (c : Ctx) (req : AccountRequest) : FailsCleanly (admitAccount b c req) := by
  intro f refused
  by_cases empty : c.tenant = ""
  · rw [admitAccount_of_empty empty] at refused
    cases refused
    rfl
  · rcases (admitAccount_eq_error_iff empty).mp refused with
      ⟨v, _, rfl⟩ | ⟨_, _, ⟨_, rfl⟩ | ⟨_, rfl⟩⟩ <;> rfl

-- An account whose identifier is free is refused only for a taken code.
theorem addAccount_cleanly {a : Account} (free : b.accountIDs.lookup a.id = none) :
    FailsCleanly (b.addAccount a) := by
  unfold Books.addAccount
  simp only [free, Option.isSome_none, Bool.false_eq_true, if_false]
  exact .ite (.refuse rfl) (.ok _)

-- The walk up from an account refuses a loop or a parent met on the way that is missing.
theorem climb_cleanly (code target : String) : ∀ (fuel : Nat) (seen : List String) (cur : Account),
    FailsCleanly (climb b tenant code target fuel seen cur)
  | 0, _, _ => .refuse rfl
  | fuel + 1, seen, cur => by
    unfold climb
    refine .ite (.ok ()) (.ite (.refuse rfl) (.ite (.refuse rfl) ?_))
    cases b.account? (accountKey tenant cur.parent) with
    | none => exact .refuse rfl
    | some next => exact climb_cleanly code target fuel _ next

theorem reparentLevel_cleanly (code target : String) :
    FailsCleanly (reparentLevel b tenant code target) := by
  unfold reparentLevel
  -- past an empty target and the account itself, the new parent is looked up and walked from
  have walked : FailsCleanly (do
      let parent ← parentByCode b tenant target
      climb b tenant code target (b.accounts.length + 1) [parent.code] parent
      pure (parent.level + 1)) :=
    .bind (parentByCode_cleanly target) fun parent _ =>
      .bind (climb_cleanly code target _ _ parent) fun _ _ => .ok _
  exact .ite (.ok 0) (.ite (.bind (.refuse rfl) fun _ _ => walked) walked)

theorem checkAncestry_cleanly (code target : String) :
    ∀ (fuel : Nat) (seen : List String) (cur : String),
      FailsCleanly (checkAncestry b tenant code target fuel seen cur)
  | 0, _, _ => .refuse rfl
  | fuel + 1, seen, cur => by
    unfold checkAncestry
    refine .ite (.ok ()) (.ite (.refuse rfl) (.ite (.refuse rfl) ?_))
    cases b.account? (accountKey tenant cur) with
    | none => exact .refuse rfl
    | some p => exact checkAncestry_cleanly code target fuel _ p.parent

theorem storeChanges_cleanly (a : Account) : FailsCleanly (storeChanges b a) := by
  unfold storeChanges
  exact .ite (.refuse rfl) (.ok _)

theorem storeMove_cleanly (a : Account) (levels : List (String × Nat)) :
    FailsCleanly (storeMove b a levels) := by
  unfold storeMove
  refine .bind (.forIn _ _ _ fun code _ => ?_) fun _ _ => ?_
  · exact .ite (.bind (.refuse rfl) fun _ _ => .ok _) (.ok _)
  · exact .bind (checkAncestry_cleanly _ _ _ _ _) fun _ _ => .ok _

-- The journal's checks: the lines, the held accounts, and posting, which checks every line and
-- holds every account before it applies them.
theorem checkBalance_cleanly (lines : List Line) : FailsCleanly (checkBalance lines) := by
  intro f refused
  rcases checkBalance_eq_error refused with rfl | ⟨_, _, _, rfl⟩ | ⟨_, _, rfl⟩ <;> rfl

theorem holdAccounts_cleanly (codes : List String) : FailsCleanly (b.holdAccounts tenant codes) := by
  intro f refused
  obtain ⟨_, rfl | rfl | rfl⟩ := holdAccounts_eq_error refused <;> rfl

theorem admitLines_cleanly (req : EntryRequest) : FailsCleanly (admitLines req) := by
  unfold admitLines
  cases req.violation with
  | some v => exact .bind (.refuse rfl) fun _ _ => .bind (checkBalance_cleanly _) fun _ _ => .ok _
  | none => exact .bind (checkBalance_cleanly _) fun _ _ => .ok _

theorem postLines_cleanly (c : Ctx) (e : Entry) : FailsCleanly (postLines b c e) := by
  intro f refused
  rcases postLines_eq_error refused with checked | ⟨_, _, held⟩
  · exact checkBalance_cleanly _ _ checked
  · exact holdAccounts_cleanly _ _ held

-- A check of the entry under a number refuses it as missing, foreign, or by `fault`.
theorem checkedEntry_cleanly (number : Ref) (refuse : Entry → Bool) {fault : Entry → Fault}
    (raised : ∀ e, (fault e).internal = false) :
    FailsCleanly (checkedEntry b tenant number refuse fault) := by
  unfold checkedEntry
  exact .bind (entryByNumber_cleanly number) fun e _ =>
    .ite (.bind (.refuse (raised e)) fun _ _ => .ok e) (.ok e)

variable {o : Office} {c : Ctx}

-- Opening an account whose identifier the generator has not drawn before.
theorem registerAccount_cleanly (ids : o.IdsIssued) (unique : Function.Injective o.ids)
    (req : AccountRequest) : FailsCleanly (o.registerAccount c req).1 := by
  unfold registerAccount
  cases admitted : admitAccount o.books c req with
  | error f => exact .refuse (admitAccount_cleanly c req f admitted)
  | ok r =>
    have free : o.books.accountIDs.lookup (o.ids (o.issued + 1)) = none := by
      simpa [Books.accountById?] using ids.fresh unique
    dsimp only [freshId]
    split
    case h_1 f added => exact .refuse (addAccount_cleanly free f added)
    case h_2 => exact .ok _

theorem updateAccount_cleanly (code : Ref) (p : AccountPatch) :
    FailsCleanly (o.updateAccount c code p).1 := by
  unfold updateAccount
  extract_lets b jp result
  -- past the patch's field rules, the account is found, then changed in place or moved
  have clean : FailsCleanly result := by
    have changed : ∀ a : Account, FailsCleanly (do
        let a' ← storeChanges b a
        pure (a, a')) := fun a => .bind (storeChanges_cleanly a) fun _ _ => .ok _
    have found : ∀ u, FailsCleanly (jp u) := fun _ => by
      refine .bind (accountByCode_cleanly code) fun a _ => ?_
      cases p.parent with
      | none => exact changed _
      | some target =>
        refine .ite (changed _) ?_
        exact .bind (reparentLevel_cleanly _ _) fun _ _ =>
          .bind (storeMove_cleanly _ _) fun _ _ => .ok _
    dsimp only [result]
    cases p.violation with
    | some v => exact .refuse_bind rfl
    | none => exact found ()
  clear_value result
  cases result with
  | error f => exact .refuse (clean f rfl)
  | ok r => exact .ok _

theorem deactivateAccount_cleanly (code : Ref) : FailsCleanly (o.deactivateAccount c code).1 := by
  unfold deactivateAccount
  cases found : accountByCode o.books c.tenant code with
  | error f => exact .refuse (accountByCode_cleanly code f found)
  | ok a =>
    dsimp only
    split
    · exact .ok ()
    · cases stored : storeChanges o.books { a with active := false, audit := a.audit.touch c.user c.now } with
      | error f => exact .refuse (storeChanges_cleanly _ f stored)
      | ok books => exact .ok ()

-- A draft that draws a number is stored, the number being free; one that draws none is refused
-- for a missing tenant or by the request's checks.
theorem createDraft_cleanly (sound : o.books.Wellformed) (req : EntryRequest) :
    FailsCleanly (o.createDraft c req).1 := by
  intro f failed
  cases drawn : (Call.createDraft c req).draws with
  | some d =>
    obtain ⟨e, drafted⟩ := (createDraft_ok_iff sound c req).mpr (by rw [drawn]; rfl)
    rw [drafted] at failed
    cases failed
  | none =>
    simp only [Call.draws] at drawn
    unfold createDraft at failed
    by_cases empty : c.tenant.isEmpty = true
    · simp only [empty, if_true, throw, throwThe, MonadExceptOf.throw, bind, Except.bind] at failed
      cases failed
      rfl
    · cases admitted : admitLines req with
      | ok r => simp [empty, admitted] at drawn
      | error f' =>
        simp only [empty, admitted, Bool.false_eq_true, if_false, bind, Except.bind] at failed
        cases failed
        exact admitLines_cleanly _ _ admitted

-- Editing, discarding and posting run as transactions whose bodies lock the draft, then the
-- accounts, and write only what they locked: they fail only as their checks on the books do.
theorem updateDraft_cleanly (number : Ref) (req : EntryRequest) :
    FailsCleanly (o.updateDraft c number req).1 := by
  unfold updateDraft
  cases admitted : admitLines req with
  | error f => exact .refuse (admitLines_cleanly req f admitted)
  | ok r =>
    obtain ⟨lines, debit, credit⟩ := r
    dsimp only
    rw [Books.withinTx_editBody]
    cases checked : checkedEntry o.books c.tenant number (·.status != .draft)
        (fun e => .notDraft e.number e.status .edit) with
    | error f => exact .refuse (checkedEntry_cleanly number _ (fun _ => rfl) f checked)
    | ok e => exact .ok _

theorem discardDraft_cleanly (number : Ref) : FailsCleanly (o.discardDraft c number).1 := by
  unfold discardDraft
  rw [Books.withinTx_discardBody]
  cases checked : checkedEntry o.books c.tenant number (·.status != .draft)
      (fun e => .notDraft e.number e.status .discard) with
  | error f => exact .refuse (checkedEntry_cleanly number _ (fun _ => rfl) f checked)
  | ok e => exact .ok ()

theorem postEntry_cleanly (number : Ref) : FailsCleanly (o.postEntry c number).1 := by
  unfold postEntry
  rw [Books.withinTx_postBody]
  have planned : FailsCleanly (postPlan o.books c number) :=
    .bind (checkedEntry_cleanly number _ fun _ => rfl) fun e _ => postLines_cleanly c e
  cases posted : postPlan o.books c number with
  | error f => exact .refuse (planned f posted)
  | ok r => exact .ok _

-- A reversal's number is free, and its compensation is refused only by posting's checks.
theorem reverseEntry_cleanly (sound : o.books.Wellformed) (number : Ref) :
    FailsCleanly (o.reverseEntry c number).1 := by
  intro f failed
  rcases reverseEntry_eq_error sound failed with (rfl | rfl) | ⟨_, _, rfl⟩ | ⟨_, _, rfl⟩ |
      ⟨_, checked⟩ | ⟨_, rfl | rfl | rfl⟩
  case inr.inr.inr.inl => exact checkBalance_cleanly _ _ checked
  all_goals rfl

end Office

-- A call of one of the services that only read the books, with the caller's context.
inductive Read where
  | accountByCode (c : Ctx) (code : Ref)
  | accountById (c : Ctx) (id : String)
  | accountsOfType (c : Ctx) (type : String)
  | childrenOf (c : Ctx) (code : Ref)
  | statement (c : Ctx) (code : Ref)
  | entryByNumber (c : Ctx) (number : Ref)
  | entryById (c : Ctx) (id : String)
  | listEntries (c : Ctx) (q : EntryQuery)

namespace Read

-- Whether a read succeeded; what it returns is dropped.
def perform : Read → Office → Except Fault Unit
  | accountByCode c code, o => (Office.accountByCode o.books c.tenant code).map fun _ => ()
  | accountById c id, o => (Office.accountById o.books c.tenant id).map fun _ => ()
  | accountsOfType c type, o => (Office.accountsOfType o.books c.tenant type).map fun _ => ()
  | childrenOf c code, o => (Office.childrenOf o.books c.tenant code).map fun _ => ()
  | statement c code, o => (Office.statement o.books c.tenant code).map fun _ => ()
  | entryByNumber c number, o => (Office.entryByNumber o.books c.tenant number).map fun _ => ()
  | entryById c id, o => (Office.entryById o.books c.tenant id).map fun _ => ()
  | listEntries c q, o => (Office.listEntries o.books o.pageSize c.tenant q).map fun _ => ()

-- Reads refuse only missing or foreign resources and malformed requests, in any state.
theorem perform_cleanly (read : Read) (o : Office) : FailsCleanly (read.perform o) := by
  cases read with
  | accountByCode c code => exact (Office.accountByCode_cleanly code).map
  | accountById c id => exact (Office.accountById_cleanly id).map
  | accountsOfType c type => exact (Office.accountsOfType_cleanly type).map
  | childrenOf c code => exact (Office.childrenOf_cleanly code).map
  | statement c code => exact (Office.statement_cleanly code).map
  | entryByNumber c number => exact (Office.entryByNumber_cleanly number).map
  | entryById c id => exact (Office.entryById_cleanly id).map
  | listEntries c q => exact (Office.listEntries_cleanly o.pageSize q).map

end Read

-- From books that are well formed, with identifiers issued by a generator that never draws one
-- twice, every call fails, if it fails, by its own checks.
theorem Call.perform_cleanly {o : Office} (sound : o.books.Wellformed) (ids : o.IdsIssued)
    (unique : Function.Injective o.ids) (call : Call) : FailsCleanly (call.perform o).1 := by
  cases call with
  | registerAccount c req => exact (Office.registerAccount_cleanly ids unique req).map
  | updateAccount c code patch => exact (Office.updateAccount_cleanly code patch).map
  | deactivateAccount c code => exact Office.deactivateAccount_cleanly code
  | createDraft c req => exact (Office.createDraft_cleanly sound req).map
  | updateDraft c number req => exact (Office.updateDraft_cleanly number req).map
  | discardDraft c number => exact Office.discardDraft_cleanly number
  | postEntry c number => exact (Office.postEntry_cleanly number).map
  | reverseEntry c number => exact (Office.reverseEntry_cleanly sound number).map

-- Service errors are business errors. In every state a session reaches, drawing identifiers
-- from a generator that never draws one twice, every call of a service, changing the books or
-- only reading them, fails, if it fails, by one of its own checks and never by a safeguard of
-- the store, its transactions or posting; and its failure is of a class other than storage,
-- not worth retrying, and answered with 403, 404, 409 or 422.
theorem service_failures_are_business_errors (pageSize : Nat) (ids : Nat → String)
    (unique : Function.Injective ids) (calls : List Call) :
    let o := (Office.startWith pageSize ids).run calls
    (∀ (call : Call) (f : Fault), (call.perform o).1 = .error f → f.Business) ∧
      ∀ (read : Read) (f : Fault), read.perform o = .error f → f.Business := by
  intro o
  have sound : o.books.Wellformed :=
    Office.run_wellformed_from (o := Office.startWith pageSize ids) (Office.start_wellformed pageSize) calls
  have issued : o.IdsIssued := Office.run_idsIssued pageSize ids calls
  have fresh : Function.Injective o.ids := (Office.run_generator _ calls).symm ▸ unique
  exact ⟨fun call f failed => Fault.business_of_raised (Call.perform_cleanly sound issued fresh call f failed),
    fun read f failed => Fault.business_of_raised (read.perform_cleanly o f failed)⟩

-- A draft with one line, from the first state: refused for too few lines, a business error.
theorem one_line_draft_is_business_error :
    let call : Call := .createDraft ⟨"T1", "u1", Timestamp.zero⟩
      { lines := [{ code := "1000", debit := ⟨100, 0⟩ }] }
    (call.perform (Office.startWith 20 Office.idNumbered)).1 = .error (.tooFewLines 1) ∧
      (Fault.tooFewLines 1).Business := by
  intro call
  have refused : (call.perform (Office.startWith 20 Office.idNumbered)).1 = .error (.tooFewLines 1) := by
    decide +kernel
  exact ⟨refused, (service_failures_are_business_errors 20 Office.idNumbered idNumbered_injective []).1
    call _ refused⟩

end Ledger
