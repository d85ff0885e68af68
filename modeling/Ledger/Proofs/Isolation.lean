import Ledger.Proofs.TenantWrites
import Ledger.Proofs.Identifiers
import Ledger.Office.Reports

-- Tenants apart keep to themselves. A tenant's reads answer from its part of the books; its
-- calls answer alike, and change its part alike, on any two offices that give it the same
-- part; and the calls of tenants apart from it leave its part as it was. So, whatever the
-- operations of tenants apart from it and wherever they fall, a tenant's operations get the
-- answers they get when it is alone, up to the identifiers the office issues.

namespace Ledger

-- Two computations that agree up to `f` agree up to anything computed from `f`.
theorem map_agree {ε α β γ : Type} {f : α → β} (g : β → γ) {x₁ x₂ : Except ε α}
    (same : x₁.map f = x₂.map f) : x₁.map (g ∘ f) = x₂.map (g ∘ f) := by
  cases x₁ <;> cases x₂ <;> simp_all [Except.map]

namespace Office

variable (b : Books) (t : String)

-- The reads of a tenant, each made on its part of the books, answer as on the books with the
-- identifiers blanked.

theorem accountsOfType_part (type : String) :
    (accountsOfType b t type).map (·.map Account.anonymous) = accountsOfType (b.part t) t type := by
  unfold accountsOfType
  cases AccountType.ofName? type with
  | none => rfl
  | some kind => simp [Except.map, @Books.accountsOf_part b t (·.type == kind) fun _ => rfl]

theorem activeAccounts_part :
    (activeAccounts b t).map Account.anonymous = activeAccounts (b.part t) t :=
  (Books.accountsOf_part b t fun _ => rfl).symm

theorem childrenOf_part (iso : b.Isolates t) (code : Ref) :
    (childrenOf b t code).map (·.map Account.anonymous) = childrenOf (b.part t) t code := by
  unfold childrenOf
  rw [← accountByCode_part b t iso, bind_map_anonymous, map_bind_eq]
  congr 1
  funext a
  simp [Except.map, pure, Except.pure, @Books.accountsOf_part b t (·.parent == a.code)
    fun _ => rfl]

theorem trialBalance_part : trialBalance (b.part t) t = trialBalance b t := by
  simp only [trialBalance, ← activeAccounts_part, List.map_map]
  rfl

-- A key of the tenant finds in its part what it finds in the books; any other key finds none of
-- the tenant's entries.
theorem entry?_own (iso : b.Isolates t) (k : String) :
    ((b.entry? k).filter (·.tenant == t)).map Entry.anonymous =
      if ownsKey t k then (Books.entry? (b.part t) k).filter (·.tenant == t) else none := by
  split
  · rename_i owned
    obtain ⟨n, rfl⟩ := ownsKey_iff.mp owned
    rw [← iso.entry? n, Option.filter_map]
    rfl
  · rename_i foreign
    cases found : b.entry? k with
    | none => rfl
    | some e =>
      obtain ⟨_, keyed⟩ := Books.entry?_some found
      have other : e.tenant ≠ t := by
        rintro rfl
        rw [← keyed, Entry.key, ownsKey_entryKey] at foreign
        exact foreign rfl
      simp [Option.filter, other]

-- The part numbers every posting alike, so reading it by number leaves it as it is.
theorem part_sorted : sortBy (fun x y => decide (x.2 ≤ y.2)) (b.part t).postOrder = (b.part t).postOrder := by
  refine sortBy_of_pairwise _ (List.pairwise_map.mpr (List.pairwise_of_forall fun _ _ => ?_))
  exact decide_eq_true (Nat.le_refl 0)

theorem postedEntries_part (iso : b.Isolates t) (ordered : b.Numbered) :
    (postedEntries b t).map Entry.anonymous = postedEntries (b.part t) t := by
  rw [postedEntries_of_numbered ordered, postedEntries_of_sorted (part_sorted b t), List.map_filterMap,
    Books.part_postings, List.filterMap_filter]
  exact List.filterMap_congr fun k _ => entry?_own b t iso k

-- Statement lines read the entries' numbers and dates, never their identifiers.
theorem runLines_anonymous (side : Side) : ∀ (start : Decimal) (lines : List (Entry × Line)),
    runLines side start (lines.map (Prod.map Entry.anonymous id)) = runLines side start lines
  | _, [] => rfl
  | start, (e, l) :: rest => by
    simp only [List.map_cons, Prod.map, runLines, runLines_anonymous side _ rest]
    rfl

theorem statement_part (iso : b.Isolates t) (ordered : b.Numbered) (code : Ref) :
    (statement b t code).map (Prod.map Account.anonymous id) = statement (b.part t) t code := by
  unfold statement
  rw [← accountByCode_part b t iso, bind_map_anonymous, map_bind_eq]
  congr 1
  funext a
  have lines : ((postedEntries (b.part t) t).flatMap fun e =>
      (e.lines.filter (·.code == a.code)).map fun l => (e, l)) =
      ((postedEntries b t).flatMap fun e =>
        (e.lines.filter (·.code == a.code)).map fun l => (e, l)).map (Prod.map Entry.anonymous id) := by
    rw [← postedEntries_part b t iso ordered, List.flatMap_map, List.map_flatMap]
    simp only [List.map_map]
    rfl
  simp only [Account.anonymous_code, lines, runLines_anonymous]
  rfl

theorem listing_part (status : Option EntryStatus) (cursor : Option Cursor) :
    listing (b.part t) t status cursor = (listing b t status cursor).map Entry.anonymous := by
  unfold listing
  rw [sortBy_map (fun x y => !listedBefore y x) (fun x y => !listedBefore y x) Entry.anonymous
    fun _ _ => rfl]
  congr 1
  simp only [Books.part, List.filter_map, List.filter_filter]
  congr 1
  refine List.filter_congr fun e _ => ?_
  simp only [Function.comp_apply, Entry.anonymous_tenant, Entry.anonymous_status]
  cases e.tenant == t <;> simp [Entry.anonymous]

-- A page's token names its last entry by date, creation time and number.
theorem pageOf_anonymous (limit : Nat) (sorted : List Entry) :
    pageOf limit (sorted.map Entry.anonymous) =
      Prod.map (List.map Entry.anonymous) id (pageOf limit sorted) := by
  unfold pageOf
  rw [List.length_map]
  split
  · rfl
  · dsimp only
    rw [← List.map_take, List.getLast?_map]
    cases (sorted.take limit).getLast? <;> rfl

theorem listEntries_part (pageSize : Nat) (q : EntryQuery) :
    (listEntries b pageSize t q).map (Prod.map (List.map Entry.anonymous) id) =
      listEntries (b.part t) pageSize t q := by
  unfold listEntries
  cases q.violation <;> cases readToken q.token <;>
    simp [bind, Except.bind, pure, Except.pure, throw, throwThe, MonadExceptOf.throw, Except.map,
      listing_part, pageOf_anonymous]

end Office

theorem map_map_eq {ε α β γ : Type} (f : α → β) (g : β → γ) (x : Except ε α) :
    (x.map f).map g = x.map (g ∘ f) := by
  cases x <;> rfl

-- A read that, on books holding the tenant apart, answers from the tenant's part up to `f`
-- answers alike up to `f` on books alike for the tenant.
theorem Books.Alike.read {b₁ b₂ : Books} {t : String} (alike : b₁.Alike t b₂) {α : Type}
    {f : α → α} (read : Books → α)
    (blanks : ∀ b : Books, b.Isolates t → b.Numbered → f (read b) = read (b.part t)) :
    f (read b₁) = f (read b₂) := by
  rw [blanks b₁ alike.isolates₁ alike.numbered₁, blanks b₂ alike.isolates₂ alike.numbered₂, alike.part]

-- What an operation of the services gives back.
inductive Reply where
  | account (a : Account)
  | accounts (as : List Account)
  | entry (e : Entry)
  | reversal (source compensation : Entry)
  | page (entries : List Entry) (next : Option String)
  | trialBalance (tb : TrialBalance)
  | statement (a : Account) (lines : List StatementLine)
  | done

-- A reply with the identifiers the office issued blanked.
def Reply.anonymous : Reply → Reply
  | account a => account a.anonymous
  | accounts as => accounts (as.map Account.anonymous)
  | entry e => entry e.anonymous
  | reversal s c => reversal s.anonymous c.anonymous
  | page es next => page (es.map Entry.anonymous) next
  | trialBalance tb => trialBalance tb
  | statement a lines => statement a.anonymous lines
  | done => done

-- A call of one of the services that read the books by code or number, with the caller's
-- context.
inductive Query where
  | accountByCode (c : Ctx) (code : Ref)
  | accounts (c : Ctx)
  | accountsOfType (c : Ctx) (type : String)
  | activeAccounts (c : Ctx)
  | childrenOf (c : Ctx) (code : Ref)
  | entryByNumber (c : Ctx) (number : Ref)
  | listEntries (c : Ctx) (q : EntryQuery)
  | trialBalance (c : Ctx)
  | statement (c : Ctx) (code : Ref)

namespace Query

def ctx : Query → Ctx
  | accountByCode c _ | accounts c | accountsOfType c _ | activeAccounts c | childrenOf c _
  | entryByNumber c _ | listEntries c _ | trialBalance c | statement c _ => c

def answer : Query → Office → Except Fault Reply
  | accountByCode c code, o => (Office.accountByCode o.books c.tenant code).map .account
  | accounts c, o => .ok (.accounts (o.books.accountsOf c.tenant))
  | accountsOfType c type, o => (Office.accountsOfType o.books c.tenant type).map .accounts
  | activeAccounts c, o => .ok (.accounts (Office.activeAccounts o.books c.tenant))
  | childrenOf c code, o => (Office.childrenOf o.books c.tenant code).map .accounts
  | entryByNumber c number, o => (Office.entryByNumber o.books c.tenant number).map .entry
  | listEntries c q, o =>
    (Office.listEntries o.books o.pageSize c.tenant q).map fun p => .page p.1 p.2
  | trialBalance c, o => .ok (.trialBalance (Office.trialBalance o.books c.tenant))
  | statement c code, o => (Office.statement o.books c.tenant code).map fun s => .statement s.1 s.2

-- A tenant's reads answer alike on books alike for it, up to identifiers.
theorem answer_alike {o₁ o₂ : Office} {t : String} (alike : o₁.books.Alike t o₂.books)
    (pages : o₁.pageSize = o₂.pageSize) (q : Query) (own : q.ctx.tenant = t) :
    (q.answer o₁).map Reply.anonymous = (q.answer o₂).map Reply.anonymous := by
  cases q <;> simp only [ctx] at own <;> subst own
  case accountByCode c code =>
    simp only [answer, map_map_eq]
    exact map_agree Reply.account (alike.read (Office.accountByCode · c.tenant code)
      fun b iso _ => Office.accountByCode_part b c.tenant iso code)
  case accounts c =>
    simp only [answer, Except.map, Reply.anonymous]
    rw [alike.read (f := List.map Account.anonymous) (·.accountsOf c.tenant)
      fun b _ _ => (Books.accountsOf_part b c.tenant fun _ => rfl).symm]
  case accountsOfType c type =>
    simp only [answer, map_map_eq]
    exact map_agree Reply.accounts (alike.read (Office.accountsOfType · c.tenant type)
      fun b _ _ => Office.accountsOfType_part b c.tenant type)
  case activeAccounts c =>
    simp only [answer, Except.map, Reply.anonymous]
    rw [alike.read (Office.activeAccounts · c.tenant) fun b _ _ => Office.activeAccounts_part b c.tenant]
  case childrenOf c code =>
    simp only [answer, map_map_eq]
    exact map_agree Reply.accounts (alike.read (Office.childrenOf · c.tenant code)
      fun b iso _ => Office.childrenOf_part b c.tenant iso code)
  case entryByNumber c number =>
    simp only [answer, map_map_eq]
    exact map_agree Reply.entry (alike.read (Office.entryByNumber · c.tenant number)
      fun b iso _ => Office.entryByNumber_part b c.tenant iso number)
  case listEntries c q =>
    simp only [answer, map_map_eq, pages]
    exact map_agree (fun p : List Entry × Option String => Reply.page p.1 p.2)
      (alike.read (Office.listEntries · o₂.pageSize c.tenant q)
        fun b _ _ => Office.listEntries_part b c.tenant o₂.pageSize q)
  case trialBalance c =>
    simp only [answer, Except.map, Reply.anonymous]
    have same : Office.trialBalance o₁.books c.tenant = Office.trialBalance o₂.books c.tenant :=
      alike.read (f := id) (Office.trialBalance · c.tenant)
        fun b _ _ => (Office.trialBalance_part b c.tenant).symm
    rw [same]
  case statement c code =>
    simp only [answer, map_map_eq]
    exact map_agree (fun s : Account × List StatementLine => Reply.statement s.1 s.2)
      (alike.read (Office.statement · c.tenant code)
        fun b iso ordered => Office.statement_part b c.tenant iso ordered code)

end Query

-- A call with what it gives back, and the office after it.
def Call.respond : Call → Office → Outcome Reply
  | registerAccount c req, o => reply .account (o.registerAccount c req)
  | updateAccount c code patch, o => reply .account (o.updateAccount c code patch)
  | deactivateAccount c code, o => reply (fun _ => .done) (o.deactivateAccount c code)
  | createDraft c req, o => reply .entry (o.createDraft c req)
  | updateDraft c number req, o => reply .entry (o.updateDraft c number req)
  | discardDraft c number, o => reply (fun _ => .done) (o.discardDraft c number)
  | postEntry c number, o => reply .entry (o.postEntry c number)
  | reverseEntry c number, o => reply (fun p => .reversal p.1 p.2) (o.reverseEntry c number)
where
  reply {α : Type} (f : α → Reply) (r : Outcome α) : Outcome Reply := (r.1.map f, r.2)

namespace Call

theorem respond_snd (call : Call) (o : Office) : (call.respond o).2 = (call.perform o).2 := by
  cases call <;> rfl

variable {t : String}

-- Outcomes that a tenant sees alike give replies it sees alike.
theorem respond.reply_alike {α β : Type} {r₁ r₂ : Outcome α} {f : α → Reply} {h : α → β}
    (k : β → Reply) (factors : Reply.anonymous ∘ f = k ∘ h) (view : r₁.view t h = r₂.view t h) :
    (reply f r₁).1.map Reply.anonymous = (reply f r₂).1.map Reply.anonymous ∧
      (reply f r₁).2.books.part t = (reply f r₂).2.books.part t := by
  obtain ⟨answer, part⟩ := Prod.mk.inj view
  refine ⟨?_, part⟩
  simp only [reply, map_map_eq, factors]
  exact map_agree k answer

-- A tenant's calls give alike, and leave alike, books alike for it, up to identifiers.
theorem respond_alike {o₁ o₂ : Office} (alike : o₁.books.Alike t o₂.books)
    (fresh₁ : o₁.books.accountById? (o₁.ids (o₁.issued + 1)) = none)
    (fresh₂ : o₂.books.accountById? (o₂.ids (o₂.issued + 1)) = none)
    (call : Call) (own : call.ctx.tenant = t) :
    (call.respond o₁).1.map Reply.anonymous = (call.respond o₂).1.map Reply.anonymous ∧
      (call.respond o₁).2.books.part t = (call.respond o₂).2.books.part t := by
  open Office in
  cases call with
  | registerAccount c req =>
    exact respond.reply_alike Reply.account rfl (registerAccount_view alike own fresh₁ fresh₂ req)
  | updateAccount c code patch =>
    exact respond.reply_alike Reply.account rfl (updateAccount_view alike own code patch)
  | deactivateAccount c code =>
    exact respond.reply_alike (fun _ => .done) rfl (deactivateAccount_view alike own code)
  | createDraft c req =>
    exact respond.reply_alike Reply.entry rfl (createDraft_view alike own req)
  | updateDraft c number req =>
    exact respond.reply_alike Reply.entry rfl (updateDraft_view alike own number req)
  | discardDraft c number =>
    exact respond.reply_alike (fun _ => .done) rfl (discardDraft_view alike own number)
  | postEntry c number =>
    exact respond.reply_alike Reply.entry rfl (postEntry_view alike own number)
  | reverseEntry c number =>
    exact respond.reply_alike (fun p => .reversal p.1 p.2) rfl (reverseEntry_view alike own number)

end Call

-- An operation of a session: a call that may change the books, or a read.
inductive Op where
  | call (call : Call)
  | query (q : Query)

namespace Op

def ctx : Op → Ctx
  | call c => c.ctx
  | query q => q.ctx

-- What an operation gives back, and the office after it: a read leaves the office as it was.
def step : Op → Office → Outcome Reply
  | call c, o => c.respond o
  | query q, o => (q.answer o, o)

end Op

namespace Office

-- Each operation of a session, made in order, with its caller's tenant and what it gives back.
def answers : Office → List Op → List (String × Except Fault Reply)
  | _, [] => []
  | o, op :: rest => (op.ctx.tenant, (op.step o).1) :: answers (op.step o).2 rest

-- What a tenant sees of a session: what its own operations give back, in order, with the
-- identifiers the office issued blanked.
def seenBy (t : String) (o : Office) (ops : List Op) : List (Except Fault Reply) :=
  ((o.answers ops).filter (·.1 == t)).map (·.2.map Reply.anonymous)

theorem seenBy_cons (t : String) (o : Office) (op : Op) (rest : List Op) :
    o.seenBy t (op :: rest) =
      if op.ctx.tenant = t then (op.step o).1.map Reply.anonymous :: (op.step o).2.seenBy t rest
      else (op.step o).2.seenBy t rest := by
  by_cases own : op.ctx.tenant = t <;> simp [seenBy, answers, own]

-- Offices that are alike for a tenant: their books hold it apart and give it the same part,
-- their page sizes agree, and each has issued identifiers as a session does from a generator
-- that never draws one twice.
structure Alike (t : String) (o₁ o₂ : Office) : Prop where
  books : o₁.books.Alike t o₂.books
  pageSize : o₁.pageSize = o₂.pageSize
  ids₁ : o₁.IdsIssued
  ids₂ : o₂.IdsIssued
  unique₁ : Function.Injective o₁.ids
  unique₂ : Function.Injective o₂.ids

theorem Alike.start (t : String) (pageSize : Nat) :
    (Office.start pageSize).Alike t (Office.start pageSize) :=
  have empty : (Office.start pageSize).books.Isolates t := ⟨fun _ none => (nomatch none), fun _ none => (nomatch none)⟩
  have ids : (Office.start pageSize).IdsIssued := run_idsIssued pageSize idNumbered []
  ⟨⟨rfl, empty, empty, .empty, .empty⟩, rfl, ids, ids, idNumbered_injective, idNumbered_injective⟩

-- A call keeps the generator, so it keeps it injective.
theorem perform_unique {o : Office} (unique : Function.Injective o.ids) (call : Call) :
    Function.Injective (call.perform o).2.ids := by
  rw [Call.perform_generator]
  exact unique

end Office

namespace Op

variable {t : String} {o₁ o₂ : Office}

-- The step lemma of a tenant's own operation: made on offices alike for the tenant, it gives
-- the same reply up to identifiers and leaves offices alike for it.
theorem step_own (alike : o₁.Alike t o₂) {op : Op} (own : op.ctx.tenant = t) :
    (op.step o₁).1.map Reply.anonymous = (op.step o₂).1.map Reply.anonymous ∧
      (op.step o₁).2.Alike t (op.step o₂).2 := by
  cases op with
  | query q => exact ⟨q.answer_alike alike.books alike.pageSize own, alike⟩
  | call call =>
    obtain ⟨answer, part⟩ := call.respond_alike alike.books (alike.ids₁.fresh alike.unique₁)
      (alike.ids₂.fresh alike.unique₂) own
    simp only [step, Call.respond_snd] at part ⊢
    refine ⟨answer, ⟨part, ?_, ?_, ?_, ?_⟩, ?_, alike.ids₁.perform call, alike.ids₂.perform call,
      Office.perform_unique alike.unique₁ call, Office.perform_unique alike.unique₂ call⟩
    · exact (call.perform_writtenBy o₁).isolates t (.inl own.symm) alike.books.isolates₁
    · exact (call.perform_writtenBy o₂).isolates t (.inl own.symm) alike.books.isolates₂
    · exact alike.books.numbered₁.change (call.perform_change o₁)
    · exact alike.books.numbered₂.change (call.perform_change o₂)
    · rw [call.perform_pageSize, call.perform_pageSize, alike.pageSize]

-- The step lemma of an operation of a tenant apart: it leaves the office alike, for the
-- tenant, to one on which it was not made.
theorem step_apart (alike : o₁.Alike t o₂) {op : Op} (apart : Apart t op.ctx.tenant) :
    (op.step o₁).2.Alike t o₂ := by
  cases op with
  | query q => exact alike
  | call call =>
    have written := call.perform_writtenBy o₁
    simp only [step, Call.respond_snd]
    exact ⟨⟨(written.unseen t apart).trans alike.books.part,
      written.isolates t (.inr apart) alike.books.isolates₁, alike.books.isolates₂,
      alike.books.numbered₁.change (call.perform_change o₁), alike.books.numbered₂⟩,
      (call.perform_pageSize o₁).trans alike.pageSize, alike.ids₁.perform call, alike.ids₂,
      Office.perform_unique alike.unique₁ call, alike.unique₂⟩

end Op

-- The run lemma: from offices alike for a tenant, a session whose other tenants are all apart
-- from it shows the tenant what the session of its own operations alone shows it.
theorem Office.Alike.seenBy {t : String} (ops : List Op)
    (fits : ∀ op ∈ ops, op.ctx.tenant = t ∨ Apart t op.ctx.tenant) {o₁ o₂ : Office}
    (alike : o₁.Alike t o₂) : o₁.seenBy t ops = o₂.seenBy t (ops.filter (·.ctx.tenant == t)) := by
  induction ops generalizing o₁ o₂ with
  | nil => rfl
  | cons op rest ih =>
    have later := fun op' member => fits op' (List.mem_cons_of_mem op member)
    rcases fits op List.mem_cons_self with own | apart
    · obtain ⟨answer, alike'⟩ := Op.step_own alike own
      rw [List.filter_cons_of_pos (by simpa using own), Office.seenBy_cons, Office.seenBy_cons,
        if_pos own, if_pos own, answer, ih later alike']
    · have other : op.ctx.tenant ≠ t := apart.ne.symm
      rw [List.filter_cons_of_neg (by simpa using other), Office.seenBy_cons, if_neg other]
      exact ih later (Op.step_apart alike apart)

-- Tenant isolation: in a session from the first state, a tenant whose fellow tenants are all
-- apart from it (none is it followed by a bar, nor it any of them followed by a bar) gets from
-- each of its operations, failing or not, what it gets in the session of its own operations
-- alone, up to the identifiers the office issues.
theorem tenants_apart_see_only_their_own (pageSize : Nat) (t : String) (ops : List Op)
    (apart : ∀ op ∈ ops, op.ctx.tenant = t ∨ Apart t op.ctx.tenant) :
    (Office.start pageSize).seenBy t ops =
      (Office.start pageSize).seenBy t (ops.filter (·.ctx.tenant == t)) :=
  (Office.Alike.start t pageSize).seenBy ops apart

-- Two tenants open an account under one code, each posts a draft on it, and each reads the
-- account and its entries: the first tenant sees what it sees alone.
theorem tenants_sharing_a_code_see_their_own :
    let ctx₁ : Ctx := ⟨"T1", "u1", Timestamp.zero⟩
    let ctx₂ : Ctx := ⟨"T2", "u2", Timestamp.zero⟩
    let ops : List Op :=
      [.call (.registerAccount ctx₂ { code := "1000", name := "Bank", type := "ASSET" }),
       .call (.registerAccount ctx₁ { code := "1000", name := "Cash", type := "ASSET" }),
       .call (.registerAccount ctx₁ { code := "4000", name := "Sales", type := "REVENUE" }),
       .call (.createDraft ctx₂ { lines := [{ code := "1000", debit := ⟨100, 0⟩ },
         { code := "4000", credit := ⟨100, 0⟩ }] }),
       .call (.createDraft ctx₁ { lines := [{ code := "1000", debit := ⟨250, 0⟩ },
         { code := "4000", credit := ⟨250, 0⟩ }] }),
       .call (.postEntry ctx₁ "JE-000001"),
       .call (.postEntry ctx₂ "JE-000001"),
       .query (.accountByCode ctx₁ "1000"),
       .query (.statement ctx₁ "1000"),
       .query (.listEntries ctx₁ {})]
    (∀ op ∈ ops, op.ctx.tenant = "T1" ∨ Apart "T1" op.ctx.tenant) ∧
      (Office.start 20).seenBy "T1" ops =
        (Office.start 20).seenBy "T1" (ops.filter (·.ctx.tenant == "T1")) := by
  intro ctx₁ ctx₂ ops
  have apart : ∀ op ∈ ops, op.ctx.tenant = "T1" ∨ Apart "T1" op.ctx.tenant := by decide
  exact ⟨apart, tenants_apart_see_only_their_own 20 "T1" ops apart⟩

-- Tenants that are not apart share keys: after tenant "a|b" opens code "c", tenant "a" is
-- refused code "b|c" as taken, though alone it opens it.
theorem barred_tenant_takes_a_neighbours_code :
    let ops : List Op :=
      [.call (.registerAccount ⟨"a|b", "u1", Timestamp.zero⟩ { code := "c", name := "C", type := "ASSET" }),
       .call (.registerAccount ⟨"a", "u1", Timestamp.zero⟩ { code := "b|c", name := "BC", type := "ASSET" })]
    ¬ Apart "a" "a|b" ∧
      (Office.start 20).seenBy "a" ops ≠ (Office.start 20).seenBy "a" (ops.filter (·.ctx.tenant == "a")) ∧
      ((Office.start 20).seenBy "a" ops).map (Except.map fun _ => ()) = [.error (.duplicateCode "b|c")] ∧
      ((Office.start 20).seenBy "a" (ops.filter (·.ctx.tenant == "a"))).map (Except.map fun _ => ()) =
        [.ok ()] := by
  intro ops
  have shared : ((Office.start 20).seenBy "a" ops).map (Except.map fun _ => ()) =
      [.error (.duplicateCode "b|c")] := by
    decide +kernel
  have alone : ((Office.start 20).seenBy "a" (ops.filter (·.ctx.tenant == "a"))).map
      (Except.map fun _ => ()) = [.ok ()] := by
    decide +kernel
  refine ⟨by decide, fun same => ?_, shared, alone⟩
  have refused := congrArg (List.map (Except.map fun _ => ())) same
  rw [shared, alone] at refused
  simp at refused

end Ledger
