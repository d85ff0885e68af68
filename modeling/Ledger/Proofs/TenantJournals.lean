import Ledger.Proofs.TenantCharts

-- Journal calls of a tenant on two sets of books the tenant sees alike. Posting reads the
-- accounts of an entry's lines under the entry's tenant's keys and never shows their
-- identifiers, so it posts alike; drafts, edits, postings and reversals then store entries that
-- differ in their identifiers only, and give results that differ in nothing else.

namespace Ledger

@[simp] theorem Account.anonymous_active (a : Account) : a.anonymous.active = a.active := rfl

/-- Held accounts with their identifiers blanked. -/
def anonymousHeld (held : Held) : Held := held.map fun h => (h.1, h.2.anonymous)

theorem lookup_anonymousHeld (held : Held) (code : String) :
    (anonymousHeld held).lookup code = (held.lookup code).map Account.anonymous := by
  induction held with
  | nil => rfl
  | cons h rest ih =>
    obtain ⟨k, a⟩ := h
    by_cases hit : code = k
    · subst hit
      simp [anonymousHeld]
    · have miss : (code == k) = false := beq_eq_false_iff_ne.mpr hit
      simp only [anonymousHeld, List.map_cons, List.lookup_cons, miss] at ih ⊢
      exact ih

theorem bind_map_eq {ε α β γ : Type} (f : α → β) (x : Except ε α) (k : β → Except ε γ) :
    x.map f >>= k = x >>= fun a => k (f a) := by
  cases x <;> rfl

theorem mapM_map_eq {ε α β γ : Type} {f : α → Except ε β} {g : α → Except ε γ} {h : β → γ}
    (each : ∀ x, (f x).map h = g x) (xs : List α) : (xs.mapM f).map (List.map h) = xs.mapM g := by
  induction xs with
  | nil => rfl
  | cons x xs ih =>
    rw [List.mapM_cons, List.mapM_cons, ← each x, ← ih]
    cases f x <;> cases xs.mapM f <;> rfl

theorem applyPosting_anonymous (held : Held) (code : String) (debit credit : Decimal) (user : String)
    (now : Timestamp) :
    applyPosting (anonymousHeld held) code debit credit user now =
      (applyPosting held code debit credit user now).map fun r => (r.1, anonymousHeld r.2) := by
  unfold applyPosting
  rw [lookup_anonymousHeld]
  cases held.lookup code with
  | none => rfl
  | some a =>
    simp only [Option.map_some]
    by_cases inactive : (!a.active) = true
    · have inactive' : (!a.anonymous.active) = true := inactive
      rw [if_pos inactive', if_pos inactive]
      rfl
    · have inactive' : ¬ (!a.anonymous.active) = true := inactive
      rw [if_neg inactive', if_neg inactive]
      cases Amount.check "debit" debit with
      | error p => rfl
      | ok u =>
        cases Amount.check "credit" credit with
        | error p => rfl
        | ok v =>
          simp only [Except.map, anonymousHeld, List.map_map]
          congr 3
          funext h
          by_cases hit : h.1 = code
          · simp [hit]
            rfl
          · simp [hit]

@[simp] theorem Account.anonymous_name (a : Account) : a.anonymous.name = a.name := rfl

-- Applying lines reads the held accounts' states and names, never their identifiers.
theorem applyLines_anonymous (t : String) (c : Ctx) : ∀ (lines : List Line) (held : Held),
    applyLines t c lines (anonymousHeld held) =
      (applyLines t c lines held).map fun r => (r.1, anonymousHeld r.2.1, r.2.2)
  | [], _ => rfl
  | l :: rest, held => by
    simp only [applyLines]
    rw [applyPosting_anonymous]
    cases applyPosting held l.code l.debit l.credit c.user c.now with
    | error f => rfl
    | ok r =>
      obtain ⟨balance, held'⟩ := r
      simp only [Except.map, lookup_anonymousHeld, Option.map_map]
      rw [applyLines_anonymous t c rest held']
      cases applyLines t c rest held' with
      | error f => rfl
      | ok r => rfl

namespace Books

variable (b : Books) (t : String)

theorem entry?_isSome (iso : b.Isolates t) (x : String) :
    (b.entry? (entryKey t x)).isSome = (Books.entry? (b.part t) (entryKey t x)).isSome := by
  rw [← iso.entry? x, Option.isSome_map]

theorem addEntry_part (iso : b.Isolates t) {e : Entry} (own : e.tenant = t) :
    (b.addEntry e).map (·.part t) = ((b.part t).addEntry e.anonymous).map (·.part t) := by
  have found := b.entry?_isSome t iso e.number
  rw [← own] at found ⊢
  have owned : ownsKey e.tenant e.key = true := ownsKey_entryKey _ _
  unfold addEntry
  rw [Entry.anonymous_key, Entry.key, found]
  split
  · rfl
  · simp only [Except.map, Entry.anonymous_status]
    refine congrArg Except.ok (part_notePosting_congr _ _ ?_ owned _)
    rw [part_appendEntry_own _ _ rfl, part_appendEntry_own (b.part e.tenant) e.tenant (e := e.anonymous) rfl,
      part_part, Entry.anonymous_anonymous]

theorem holdAccounts_part (iso : b.Isolates t) (codes : List String) :
    (b.holdAccounts t codes).map anonymousHeld = (b.part t).holdAccounts t codes := by
  unfold holdAccounts holdFound
  refine mapM_map_eq (fun code => ?_) _
  dsimp only
  rw [← iso.account? code]
  cases b.account? (accountKey t code) with
  | none => rfl
  | some a =>
    by_cases mine : a.tenant = t
    · by_cases active : a.active = true <;> simp [mine, active, Except.map]
    · simp [mine, Except.map]

end Books

namespace Office

theorem entryByNumber_part (b : Books) (t : String) (iso : b.Isolates t) (number : Ref) :
    (entryByNumber b t number).map Entry.anonymous = entryByNumber (b.part t) t number := by
  unfold entryByNumber
  cases exact : number.exact
  · rfl
  · have found := iso.entry? number.text
    simp only [if_true]
    cases stored : b.entry? (entryKey t number.text) with
    | none =>
      rw [stored] at found
      simp [← found, Except.map]
    | some e =>
      rw [stored] at found
      rw [← found]
      by_cases mine : e.tenant = t <;> simp [mine, Except.map]

end Office

-- Posting reads the accounts of the lines under the entry's tenant's keys; what it makes of
-- them never shows their identifiers.
theorem postLines_part (b : Books) (c : Ctx) {e : Entry} (iso : b.Isolates e.tenant) :
    postLines b c e = postLines (b.part e.tenant) c e := by
  simp only [postLines, ← Books.holdAccounts_part b _ iso, bind_map_eq, applyLines_anonymous]

theorem postLines_anonymous (b : Books) (c : Ctx) (e : Entry) :
    postLines b c e.anonymous = (postLines b c e).map fun r => (r.1.anonymous, r.2) := by
  simp only [postLines, map_bind_eq]
  rfl

theorem Entry.eq_of_anonymous {e₁ e₂ : Entry} (same : e₁.anonymous = e₂.anonymous) :
    e₁ = { e₂ with id := e₁.id } := by
  cases e₁
  cases e₂
  simp only [Entry.anonymous, Entry.mk.injEq] at same ⊢
  simp [same]

-- A compensating entry is the same whatever its identifier and that of the entry it reverses.
theorem Office.compensation_anonymous (c : Ctx) (id id' number i : String) (src : Entry) :
    (Office.compensation c id number { src with id := i }).anonymous =
      (Office.compensation c id' number src).anonymous := rfl

namespace Books.Alike

open Office

variable {t : String} {b₁ b₂ : Books} (alike : b₁.Alike t b₂)
include alike

theorem entryByNumber (number : Ref) :
    (entryByNumber b₁ t number).map Entry.anonymous = (entryByNumber b₂ t number).map Entry.anonymous := by
  rw [entryByNumber_part _ _ alike.isolates₁, entryByNumber_part _ _ alike.isolates₂, alike.part]

theorem postLines (c : Ctx) {e₁ e₂ : Entry} (own : e₁.tenant = t) (same : e₁.anonymous = e₂.anonymous) :
    (postLines b₁ c e₁).map (fun r => (r.1.anonymous, r.2)) =
      (postLines b₂ c e₂).map (fun r => (r.1.anonymous, r.2)) := by
  have own' : e₂.tenant = t := by simpa [own] using congrArg Entry.tenant same.symm
  have iso₁ := alike.isolates₁
  have iso₂ := alike.isolates₂
  rw [← own] at iso₁
  rw [← own'] at iso₂
  rw [postLines_part b₁ c iso₁, postLines_part b₂ c iso₂, own, own', alike.part,
    ← postLines_anonymous, ← postLines_anonymous, same]

theorem nextNumber (pfx : String) : (b₁.nextNumber t pfx).2.Alike t (b₂.nextNumber t pfx).2 :=
  ⟨by rw [Books.part_nextNumber_own, Books.part_nextNumber_own, alike.part],
    alike.isolates₁.nextNumber t pfx, alike.isolates₂.nextNumber t pfx,
    alike.numbered₁.of_postOrder rfl rfl, alike.numbered₂.of_postOrder rfl rfl⟩

theorem nextNumber_fst (pfx : String) : (b₁.nextNumber t pfx).1 = (b₂.nextNumber t pfx).1 := by
  rw [Books.nextNumber_fst, Books.nextNumber_fst, ← Books.lastNumber_part b₁,
    ← Books.lastNumber_part b₂, alike.part]

theorem applyWrites (ws : List (String × Decimal)) (user : String) (now : Timestamp) :
    (b₁.applyWrites ws user now).Alike t (b₂.applyWrites ws user now) :=
  ⟨by rw [Books.part_applyWrites, Books.part_applyWrites, alike.part],
    alike.isolates₁.applyWrites ws user now, alike.isolates₂.applyWrites ws user now,
    alike.numbered₁.applyWrites ws user now, alike.numbered₂.applyWrites ws user now⟩

theorem addEntry {e₁ e₂ : Entry} (own : e₁.tenant = t) (same : e₁.anonymous = e₂.anonymous) :
    (b₁.addEntry e₁).map (·.part t) = (b₂.addEntry e₂).map (·.part t) := by
  have own' : e₂.tenant = t := by simpa [own] using congrArg Entry.tenant same.symm
  rw [Books.addEntry_part _ _ alike.isolates₁ own, Books.addEntry_part _ _ alike.isolates₂ own',
    alike.part, same]

theorem replaceEntry {e₁ e₂ : Entry} (own : e₁.tenant = t) (same : e₁.anonymous = e₂.anonymous) :
    (b₁.replaceEntry e₁).part t = (b₂.replaceEntry e₂).part t := by
  have own' : e₂.tenant = t := by simpa [own] using congrArg Entry.tenant same.symm
  rw [alike.isolates₁.part_replaceEntry own, alike.isolates₂.part_replaceEntry own', alike.part, same]

theorem removeEntry (k : String) : (b₁.removeEntry k).part t = (b₂.removeEntry k).part t := by
  rw [Books.part_removeEntry b₁, Books.part_removeEntry b₂, alike.part]

-- A check of the entry under a number that reads neither the entry's identifier nor shows it
-- in its fault answers alike.
theorem checkedEntry (number : Ref) (refuse : Entry → Bool) (fault : Entry → Fault)
    (blind : ∀ e, refuse e.anonymous = refuse e) (unnamed : ∀ e, fault e.anonymous = fault e) :
    (checkedEntry b₁ t number refuse fault).map Entry.anonymous =
      (checkedEntry b₂ t number refuse fault).map Entry.anonymous := by
  unfold Office.checkedEntry
  refine bind_agree (alike.entryByNumber number) fun e₁ e₂ _ _ same => ?_
  have refused : refuse e₁ = refuse e₂ := by rw [← blind e₁, same, blind]
  have named : fault e₁ = fault e₂ := by rw [← unnamed e₁, same, unnamed]
  rw [refused, named]
  by_cases stop : refuse e₂ = true
  · simp [stop, throw, throwThe, MonadExceptOf.throw, Except.map]
  · simp [stop, pure, Except.pure, Except.map, same]

theorem postPlan (c : Ctx) (own : c.tenant = t) (number : Ref) :
    (postPlan b₁ c number).map (fun r => (r.1.anonymous, r.2)) =
      (postPlan b₂ c number).map (fun r => (r.1.anonymous, r.2)) := by
  unfold Office.postPlan
  rw [own]
  refine bind_agree (alike.checkedEntry number _ _ (fun _ => rfl) (fun _ => rfl))
    fun e₁ e₂ checked _ same => ?_
  exact alike.postLines c (entryByNumber_eq_ok (checkedEntry_eq_ok.mp checked).1).2.1 same

theorem sourcePlan (c : Ctx) (own : c.tenant = t) (number : Ref) :
    (sourcePlan b₁ c number).map Entry.anonymous = (sourcePlan b₂ c number).map Entry.anonymous := by
  unfold Office.sourcePlan
  rw [own]
  refine bind_agree (alike.checkedEntry number _ _ (fun _ => rfl) (fun _ => rfl)) fun e₁ e₂ _ _ same => ?_
  obtain ⟨i, rfl⟩ : ∃ i, e₁ = { e₂ with id := i } := ⟨e₁.id, Entry.eq_of_anonymous same⟩
  by_cases posted : (e₂.status != .posted) = true
  · simp [posted, Except.map]
  · simp [posted, Except.map, same]

end Books.Alike

-- A stored entry keeps its books holding the tenant apart.
theorem Books.Isolates.addEntry {b b' : Books} {t : String} (iso : b.Isolates t) {e : Entry}
    (fits : e.tenant = t ∨ Apart t e.tenant) (added : b.addEntry e = .ok b') : b'.Isolates t := by
  obtain ⟨_, rfl⟩ := Books.addEntry_eq_ok.mp added
  exact (iso.appendEntry fits _).notePosting _ _

-- Stored entries that agree up to their identifiers keep books alike.
theorem Books.Alike.added {b₁ b₂ b₁' b₂' : Books} {t : String} (alike : b₁.Alike t b₂) {e₁ e₂ : Entry}
    (own : e₁.tenant = t) (same : e₁.anonymous = e₂.anonymous) (added₁ : b₁.addEntry e₁ = .ok b₁')
    (added₂ : b₂.addEntry e₂ = .ok b₂') : b₁'.Alike t b₂' := by
  have own' : e₂.tenant = t := by simpa [own] using congrArg Entry.tenant same.symm
  have parts := alike.addEntry own same
  rw [added₁, added₂] at parts
  exact ⟨Except.ok.inj parts, alike.isolates₁.addEntry (.inl own) added₁,
    alike.isolates₂.addEntry (.inl own') added₂, alike.numbered₁.addEntry added₁,
    alike.numbered₂.addEntry added₂⟩

namespace Office

variable {t : String}

theorem createDraft_view {o₁ o₂ : Office} (alike : o₁.books.Alike t o₂.books) {c : Ctx}
    (own : c.tenant = t) (req : EntryRequest) :
    (o₁.createDraft c req).view t Entry.anonymous = (o₂.createDraft c req).view t Entry.anonymous := by
  unfold createDraft
  extract_lets jp admitted pfx
  clear_value admitted
  cases admitted with
  | error f => simp [Outcome.view, Except.map, alike.part]
  | ok r =>
    obtain ⟨lines, debit, credit⟩ := r
    dsimp -zeta only
    rw [own]
    have numbered := alike.nextNumber_fst pfx
    have alike' := alike.nextNumber pfx
    generalize o₁.books.nextNumber t pfx = r₁ at numbered alike' ⊢
    generalize o₂.books.nextNumber t pfx = r₂ at numbered alike' ⊢
    obtain ⟨n₁, books₁⟩ := r₁
    obtain ⟨n₂, books₂⟩ := r₂
    dsimp -zeta only at numbered alike' ⊢
    subst numbered
    simp -zeta only [freshId]
    extract_lets o₁' e₁ o₂' e₂
    -- The two drafts differ in their identifiers only.
    have same : e₁.anonymous = e₂.anonymous := by simp only [e₁, e₂, Entry.anonymous]
    have stores : (o₁'.books.addEntry e₁).map (·.part t) = (o₂'.books.addEntry e₂).map (·.part t) :=
      alike'.addEntry rfl same
    clear_value e₁ e₂
    cases added₁ : o₁'.books.addEntry e₁ with
    | error f =>
      rw [eq_error_of_map stores added₁]
      simp [Outcome.view, Except.map, o₁', o₂', alike'.part]
    | ok k₁ =>
      obtain ⟨k₂, added₂, parts⟩ := eq_ok_of_map stores added₁
      rw [added₂]
      simp [Outcome.view, Except.map, parts, same]

theorem updateDraft_view {o₁ o₂ : Office} (alike : o₁.books.Alike t o₂.books) {c : Ctx}
    (own : c.tenant = t) (number : Ref) (req : EntryRequest) :
    (o₁.updateDraft c number req).view t Entry.anonymous =
      (o₂.updateDraft c number req).view t Entry.anonymous := by
  unfold updateDraft
  cases admitLines req with
  | error f => exact Outcome.view_agree rfl alike.part
  | ok r =>
    obtain ⟨lines, debit, credit⟩ := r
    dsimp only
    rw [Books.withinTx_editBody, Books.withinTx_editBody, own]
    rcases Except.agree_cases (alike.checkedEntry number (·.status != .draft)
        (fun e => .notDraft e.number e.status .edit) (fun _ => rfl) (fun _ => rfl)) with ⟨f, refused₁, refused₂⟩ | ⟨e₁, e₂, checked₁, checked₂, same⟩
    · rw [refused₁, refused₂]
      exact Outcome.view_agree rfl alike.part
    · rw [checked₁, checked₂]
      have mine : e₂.tenant = t := (entryByNumber_eq_ok (checkedEntry_eq_ok.mp checked₂).1).2.1
      obtain ⟨i, rfl⟩ : ∃ i, e₁ = { e₂ with id := i } := ⟨e₁.id, Entry.eq_of_anonymous same⟩
      exact Outcome.view_agree rfl (alike.replaceEntry mine rfl)

theorem discardDraft_view {o₁ o₂ : Office} (alike : o₁.books.Alike t o₂.books) {c : Ctx}
    (own : c.tenant = t) (number : Ref) :
    (o₁.discardDraft c number).view t id = (o₂.discardDraft c number).view t id := by
  unfold discardDraft
  rw [Books.withinTx_discardBody, Books.withinTx_discardBody, own]
  rcases Except.agree_cases (alike.checkedEntry number (·.status != .draft)
      (fun e => .notDraft e.number e.status .discard) (fun _ => rfl) (fun _ => rfl)) with ⟨f, refused₁, refused₂⟩ | ⟨e₁, e₂, checked₁, checked₂, same⟩
  · rw [refused₁, refused₂]
    exact Outcome.view_agree rfl alike.part
  · rw [checked₁, checked₂]
    -- the drafts agree up to their identifiers, so they sit under one key
    have keyed : e₁.key = e₂.key := by simpa using congrArg Entry.key same
    exact Outcome.view_agree rfl (by rw [keyed]; exact alike.removeEntry e₂.key)

theorem postEntry_view {o₁ o₂ : Office} (alike : o₁.books.Alike t o₂.books) {c : Ctx}
    (own : c.tenant = t) (number : Ref) :
    (o₁.postEntry c number).view t Entry.anonymous =
      (o₂.postEntry c number).view t Entry.anonymous := by
  unfold postEntry
  rw [Books.withinTx_postBody, Books.withinTx_postBody]
  rcases Except.agree_cases (alike.postPlan c own number) with ⟨f, refused₁, refused₂⟩ |
    ⟨⟨e₁, ws₁⟩, ⟨e₂, ws₂⟩, planned₁, planned₂, same⟩
  · rw [refused₁, refused₂]
    exact Outcome.view_agree rfl alike.part
  · rw [planned₁, planned₂]
    obtain ⟨same', rfl⟩ := Prod.mk.inj same
    -- the posted entry keeps the draft's tenant
    obtain ⟨e0, checked, posted⟩ := Except.bind_eq_ok.mp planned₁
    have stays : e₁.tenant = t :=
      (postLines_fields posted).1.trans ((entryByNumber_eq_ok (checkedEntry_eq_ok.mp checked).1).2.1.trans own)
    exact Outcome.view_agree (congrArg Except.ok same')
      ((alike.applyWrites ws₁ c.user c.now).replaceEntry stays same')

-- What a tenant sees of a reversal is what it sees of its transaction: the number and the
-- identifier it draws reach the tenant's part only through the books.
theorem reverseEntry_view_eq (o : Office) (c : Ctx) (number : Ref) {β : Type} (F : Entry × Entry → β) :
    (o.reverseEntry c number).view t F =
      let tx := (o.books.nextNumber c.tenant "RV").2.withinTxAfter (reversalSource c number)
        (reversalBody c number (o.ids (o.issued + 1)) (entryNumber "RV" (o.books.nextNumber c.tenant "RV").1))
      (tx.1.map F, tx.2.2.part t) := by
  unfold reverseEntry
  simp only [freshId]
  rcases (o.books.nextNumber c.tenant "RV").2.withinTxAfter (reversalSource c number)
      (reversalBody c number (o.ids (o.issued + 1)) (entryNumber "RV" (o.books.nextNumber c.tenant "RV").1))
    with ⟨_ | _, _ | _, books⟩ <;> rfl

theorem reverseEntry_view {o₁ o₂ : Office} (alike : o₁.books.Alike t o₂.books) {c : Ctx}
    (own : c.tenant = t) (number : Ref) :
    (o₁.reverseEntry c number).view t (Prod.map Entry.anonymous Entry.anonymous) =
      (o₂.reverseEntry c number).view t (Prod.map Entry.anonymous Entry.anonymous) := by
  rw [reverseEntry_view_eq, reverseEntry_view_eq, own]
  have numbered := alike.nextNumber_fst "RV"
  have alike' := alike.nextNumber "RV"
  generalize o₁.books.nextNumber t "RV" = r₁ at numbered alike' ⊢
  generalize o₂.books.nextNumber t "RV" = r₂ at numbered alike' ⊢
  obtain ⟨n₁, books₁⟩ := r₁
  obtain ⟨n₂, books₂⟩ := r₂
  dsimp only at numbered alike' ⊢
  subst numbered
  rw [Books.withinTxAfter_reversal, Books.withinTxAfter_reversal]
  rcases Except.agree_cases (alike'.sourcePlan c own number) with ⟨f, refused₁, refused₂⟩ |
    ⟨src₁, src₂, planned₁, planned₂, same⟩
  · rw [refused₁, refused₂]
    simp [alike'.part]
  rw [planned₁, planned₂]
  have mine : src₂.tenant = t :=
    (entryByNumber_eq_ok (Office.sourcePlan_eq_ok planned₂).1).2.1.trans own
  obtain ⟨i, rfl⟩ : ∃ i, src₁ = { src₂ with id := i } := ⟨src₁.id, Entry.eq_of_anonymous same⟩
  -- the compensations differ in their identifiers only, and so do the posted ones
  rcases Except.agree_cases (alike'.postLines c own (compensation_anonymous c _ _ _ _ _)) with
    ⟨f, refused₁, refused₂⟩ | ⟨⟨p₁, ws₁⟩, ⟨p₂, ws₂⟩, posted₁, posted₂, posted⟩
  · dsimp only
    rw [refused₁, refused₂]
    simp [alike'.part]
  dsimp only
  rw [posted₁, posted₂]
  obtain ⟨same', rfl⟩ := Prod.mk.inj posted
  have stays : p₁.tenant = t := (postLines_fields posted₁).1.trans own
  have numbers : p₁.number = p₂.number := by simpa using congrArg Entry.number same'
  have written := alike'.applyWrites ws₁ c.user c.now
  rcases Except.agree_cases (written.addEntry stays same') with ⟨f, refused₁, refused₂⟩ |
    ⟨k₁, k₂, added₁, added₂, -⟩
  · dsimp only
    rw [refused₁, refused₂]
    simp [alike'.part]
  dsimp only
  rw [added₁, added₂]
  have kept : k₁.Alike t k₂ := written.added stays same' added₁ added₂
  refine Prod.ext ?_ (kept.replaceEntry ?_ ?_)
  · simp only [Except.map, Prod.map, numbers, same']
    rfl
  · exact mine
  · rw [numbers]
    rfl

end Office

end Ledger
