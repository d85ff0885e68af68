import Ledger.Proofs.Wellformed

-- Account identifiers are never reused. The office draws identifiers from its generator, the
-- `n`-th at the count `n`; a generator that gives distinct counts distinct identifiers is fresh,
-- and the default one, a fixed prefix and `n` in hexadecimal, is, since the hexadecimal digits
-- read back the count whatever zeros pad them. Every identifier the account index holds was
-- drawn at or below the counter, no call lowers the counter or changes the generator, and a new
-- account takes the next count: so the identifier an account is about to take is free.

namespace Ledger

section Hex

-- The value of a hexadecimal digit as `Nat.digitChar` writes it.
def hexValue (c : Char) : Nat := ((List.range 16).find? (fun d => Nat.digitChar d == c)).getD 0

-- The number hexadecimal digits write, most significant first.
def readHex (cs : List Char) : Nat := cs.foldl (fun n c => 16 * n + hexValue c) 0

theorem hexValue_digitChar : ∀ d < 16, hexValue (Nat.digitChar d) = d := by decide +kernel

theorem readHex_snoc (cs : List Char) (c : Char) : readHex (cs ++ [c]) = 16 * readHex cs + hexValue c := by
  simp [readHex, List.foldl_append]

theorem readHex_zeros (k : Nat) (cs : List Char) : readHex (List.replicate k '0' ++ cs) = readHex cs := by
  have zeros : (List.replicate k '0').foldl (fun n c => 16 * n + hexValue c) 0 = 0 := by
    induction k with
    | zero => rfl
    | succ k ih => rw [List.replicate_succ, List.foldl_cons, show hexValue '0' = 0 by decide, ih]
  rw [readHex, List.foldl_append, zeros]
  rfl

-- The digits `Nat.toDigits 16` writes read back the number, by the last digit and the rest.
theorem readHex_toDigits (n : Nat) : readHex (Nat.toDigits 16 n) = n := by
  induction n using Nat.strong_induction_on with
  | _ n ih =>
    rw [Nat.toDigits_eq_if (by decide)]
    split
    · rename_i small
      simp [readHex, hexValue_digitChar n small]
    · rename_i large
      have lower : n / 16 < n := Nat.div_lt_self (by omega) (by decide)
      rw [readHex_snoc, ih _ lower, hexValue_digitChar _ (Nat.mod_lt n (by decide))]
      omega

theorem idNumbered_injective : Function.Injective Office.idNumbered := by
  intro m n same
  unfold Office.idNumbered at same
  have digits := List.append_cancel_left
    (String.toList_append.symm.trans ((congrArg String.toList same).trans String.toList_append))
  unfold Office.hexPadded at digits
  rw [String.toList_ofList, String.toList_ofList] at digits
  have read := congrArg readHex digits
  rwa [readHex_zeros, readHex_toDigits, readHex_zeros, readHex_toDigits] at read

end Hex

section Accounts

variable {b b' : Books}

-- Changing accounts in place keeps their identifiers.
theorem modifyAccount_ids {k : String} {f : Account → Account} (keeps : ∀ x, (f x).id = x.id) :
    (b.modifyAccount k f).accounts.map Account.id = b.accounts.map Account.id := by
  rw [Books.modifyAccount_accounts, List.map_map]
  refine List.map_congr_left fun a _ => ?_
  simp only [Function.comp_apply]
  split
  · exact keeps a
  · rfl

theorem foldl_modifyAccount_ids {α : Type} (F : Books → α → Books)
    (each : ∀ b x, (F b x).accounts.map Account.id = b.accounts.map Account.id) (xs : List α) (b : Books) :
    (xs.foldl F b).accounts.map Account.id = b.accounts.map Account.id := by
  induction xs generalizing b with
  | nil => rfl
  | cons x rest ih => rw [List.foldl_cons, ih, each]

theorem storeChanges_ids {a : Account} (stored : Office.storeChanges b a = .ok b') :
    b'.accounts.map Account.id = b.accounts.map Account.id := by
  unfold Office.storeChanges at stored
  split at stored
  · cases stored
  · cases stored
    exact modifyAccount_ids fun _ => rfl

theorem storeMove_ids {a : Account} {levels : List (String × Nat)}
    (stored : Office.storeMove b a levels = .ok b') :
    b'.accounts.map Account.id = b.accounts.map Account.id := by
  unfold Office.storeMove at stored
  obtain ⟨_, _, stored⟩ := Except.bind_eq_ok.mp stored
  obtain ⟨_, _, stored⟩ := Except.bind_eq_ok.mp stored
  cases stored
  refine (foldl_modifyAccount_ids _ (fun b w => ?_) levels _).trans (modifyAccount_ids fun _ => rfl)
  exact modifyAccount_ids fun _ => rfl

theorem applyWrites_ids (writes : List (String × Decimal)) (user : String) (now : Timestamp) :
    (b.applyWrites writes user now).accounts.map Account.id = b.accounts.map Account.id := by
  rw [Books.applyWrites_accounts, List.map_map]
  exact List.map_congr_left fun _ _ => writeBalance_id ..

end Accounts

namespace Office

variable {o : Office} {c : Ctx}

-- Changing or deactivating an account keeps every identifier.
theorem updateAccount_ids {code : Ref} {p : AccountPatch} :
    (o.updateAccount c code p).2.books.accounts.map Account.id = o.books.accounts.map Account.id := by
  cases changed : (o.updateAccount c code p).1 with
  | error f => rw [updateAccount_error changed]
  | ok a =>
    obtain ⟨books, _, office, _, _, _, ⟨_, _, stored⟩ | ⟨_, stored⟩⟩ := updateAccount_stored changed
    · rw [office]
      exact storeChanges_ids stored
    · rw [office]
      exact storeMove_ids stored

theorem deactivateAccount_ids {code : Ref} :
    (o.deactivateAccount c code).2.books.accounts.map Account.id = o.books.accounts.map Account.id := by
  unfold deactivateAccount
  cases found : accountByCode o.books c.tenant code with
  | error f => rfl
  | ok a =>
    by_cases active : a.active = true
    · cases stored : storeChanges o.books { a with active := false, audit := a.audit.touch c.user c.now } with
      | error f => simp [active, stored]
      | ok books => simpa [active, stored] using storeChanges_ids stored
    · simp [active]

-- The counter only grows: opening an account, drafting, posting and reversing issue
-- identifiers, the other calls none.
theorem registerAccount_issued {req : AccountRequest} : o.issued ≤ (o.registerAccount c req).2.issued := by
  unfold registerAccount
  split
  · exact Nat.le_refl _
  · simp only [freshId]
    split <;> simp

-- A new account takes the identifier of the next count, and the counter moves to it.
theorem registerAccount_id {req : AccountRequest} {a : Account}
    (opened : (o.registerAccount c req).1 = .ok a) :
    a.id = o.ids (o.issued + 1) ∧ (o.registerAccount c req).2.issued = o.issued + 1 := by
  unfold registerAccount at opened ⊢
  simp only [freshId] at opened ⊢
  split at opened
  · cases opened
  · split at opened
    · cases opened
    · cases opened
      simp

theorem createDraft_issued {req : EntryRequest} : o.issued ≤ (o.createDraft c req).2.issued := by
  unfold createDraft
  extract_lets jp admitted
  clear_value admitted
  cases admitted with
  | error f => exact Nat.le_refl _
  | ok r =>
    simp only [freshId]
    split <;> simp

theorem postEntry_issued {number : Ref} : o.issued ≤ (o.postEntry c number).2.issued := by
  unfold postEntry
  split <;> simp [announce, freshId]

theorem reverseEntry_issued {number : Ref} : o.issued ≤ (o.reverseEntry c number).2.issued := by
  unfold reverseEntry
  simp only [freshId]
  repeat' split
  all_goals simp +arith [announce, freshId]

-- No call changes the generator.
theorem registerAccount_generator {req : AccountRequest} : (o.registerAccount c req).2.ids = o.ids := by
  unfold registerAccount
  split
  · rfl
  · simp only [freshId]
    split <;> rfl

theorem createDraft_generator {req : EntryRequest} : (o.createDraft c req).2.ids = o.ids := by
  unfold createDraft
  extract_lets jp admitted
  clear_value admitted
  cases admitted with
  | error f => rfl
  | ok r =>
    simp only [freshId]
    split <;> rfl

theorem postEntry_generator {number : Ref} : (o.postEntry c number).2.ids = o.ids := by
  unfold postEntry
  split <;> rfl

theorem reverseEntry_generator {number : Ref} : (o.reverseEntry c number).2.ids = o.ids := by
  unfold reverseEntry
  simp only [freshId]
  split <;> rfl

end Office

namespace Call

variable {o : Office}

theorem perform_generator (call : Call) : (call.perform o).2.ids = o.ids := by
  cases call with
  | registerAccount c req => exact Office.registerAccount_generator
  | updateAccount c code patch =>
    simp only [perform, settle_snd]
    cases changed : (o.updateAccount c code patch).1 with
    | error f => rw [Office.updateAccount_error changed]
    | ok a => rw [(Office.updateAccount_ok changed).choose_spec.2]
  | deactivateAccount c code =>
    simp only [perform]
    cases done : (o.deactivateAccount c code).1 with
    | error f => rw [Office.deactivateAccount_error done]
    | ok u => rw [(Office.deactivateAccount_ok done).choose_spec.2]
  | createDraft c req => exact Office.createDraft_generator
  | updateDraft c number req =>
    simp only [perform, settle_snd]
    cases updated : (o.updateDraft c number req).1 with
    | error f => rw [Office.updateDraft_error updated]
    | ok e =>
      obtain ⟨_, _, _, _, _, _, _, _, same⟩ := Office.updateDraft_ok updated
      rw [same]
  | discardDraft c number =>
    simp only [perform]
    cases done : (o.discardDraft c number).1 with
    | error f => rw [Office.discardDraft_error done]
    | ok u =>
      obtain ⟨_, _, _, _, same⟩ := Office.discardDraft_ok done
      rw [same]
  | postEntry c number => exact Office.postEntry_generator
  | reverseEntry c number => exact Office.reverseEntry_generator

-- No call lowers the counter.
theorem perform_issued (call : Call) : o.issued ≤ (call.perform o).2.issued := by
  cases call with
  | registerAccount c req => exact Office.registerAccount_issued
  | updateAccount c code patch =>
    simp only [perform, settle_snd]
    cases changed : (o.updateAccount c code patch).1 with
    | error f => rw [Office.updateAccount_error changed]
    | ok a => rw [(Office.updateAccount_ok changed).choose_spec.2]
  | deactivateAccount c code =>
    simp only [perform]
    cases done : (o.deactivateAccount c code).1 with
    | error f => rw [Office.deactivateAccount_error done]
    | ok u => rw [(Office.deactivateAccount_ok done).choose_spec.2]
  | createDraft c req => exact Office.createDraft_issued
  | updateDraft c number req =>
    simp only [perform, settle_snd]
    cases updated : (o.updateDraft c number req).1 with
    | error f => rw [Office.updateDraft_error updated]
    | ok e =>
      obtain ⟨_, _, _, _, _, _, _, _, same⟩ := Office.updateDraft_ok updated
      rw [same]
  | discardDraft c number =>
    simp only [perform]
    cases done : (o.discardDraft c number).1 with
    | error f => rw [Office.discardDraft_error done]
    | ok u =>
      obtain ⟨_, _, _, _, same⟩ := Office.discardDraft_ok done
      rw [same]
  | postEntry c number => exact Office.postEntry_issued
  | reverseEntry c number => exact Office.reverseEntry_issued

end Call

-- Every identifier the account index holds was drawn at or below the counter.
def Office.IdsIssued (o : Office) : Prop :=
  ∀ i, (o.books.accountIDs.lookup i).isSome → ∃ k ≤ o.issued, i = o.ids k

namespace Office.IdsIssued

variable {o o' : Office}

-- With a fresh generator, the identifier of the next count belongs to no stored account.
theorem fresh (ids : o.IdsIssued) (unique : Function.Injective o.ids) :
    o.books.accountById? (o.ids (o.issued + 1)) = none := by
  cases indexed : o.books.accountIDs.lookup (o.ids (o.issued + 1)) with
  | none => simp [Books.accountById?, indexed]
  | some key =>
    obtain ⟨k, below, drawn⟩ := ids _ (by rw [indexed]; rfl)
    have same := unique drawn
    omega

theorem of_index (ids : o.IdsIssued) (same : o'.books.accountIDs = o.books.accountIDs)
    (more : o.issued ≤ o'.issued) (generator : o'.ids = o.ids) : o'.IdsIssued := by
  intro i indexed
  rw [same] at indexed
  obtain ⟨k, below, drawn⟩ := ids i indexed
  exact ⟨k, below.trans more, generator ▸ drawn⟩

-- Every call keeps the identifiers issued: a new account takes the next count with the
-- counter, and no other call writes the account index.
theorem perform (ids : o.IdsIssued) (call : Call) : (call.perform o).2.IdsIssued := by
  have more := call.perform_issued (o := o)
  have generator := call.perform_generator (o := o)
  cases call with
  | registerAccount c req =>
    simp only [Call.perform, Call.settle_snd] at more generator ⊢
    cases opened : (o.registerAccount c req).1 with
    | error f => exact ids.of_index (by rw [(registerAccount_error opened).1]) more generator
    | ok a =>
      obtain ⟨_, _, _, _, _, _, books, _⟩ := registerAccount_ok opened
      obtain ⟨id, issued⟩ := registerAccount_id opened
      intro i indexed
      simp only [books, lookup_setKey] at indexed
      by_cases new : i = a.id
      · exact ⟨o.issued + 1, issued.ge, by rw [generator, new, id]⟩
      · rw [if_neg new] at indexed
        obtain ⟨k, below, drawn⟩ := ids i indexed
        exact ⟨k, below.trans more, generator ▸ drawn⟩
  | updateAccount c code patch =>
    refine ids.of_index ?_ more generator
    simp only [Call.perform, Call.settle_snd]
    cases changed : (o.updateAccount c code patch).1 with
    | error f => rw [updateAccount_error changed]
    | ok a =>
      obtain ⟨books, ⟨g, _, rfl⟩, same⟩ := updateAccount_ok changed
      rw [same]
  | deactivateAccount c code =>
    refine ids.of_index ?_ more generator
    simp only [Call.perform]
    cases done : (o.deactivateAccount c code).1 with
    | error f => rw [deactivateAccount_error done]
    | ok u =>
      obtain ⟨books, ⟨g, _, rfl⟩, same⟩ := deactivateAccount_ok done
      rw [same]
  | createDraft c req =>
    refine ids.of_index ?_ more generator
    simp only [Call.perform, Call.settle_snd]
    cases drafted : (o.createDraft c req).1 with
    | error f =>
      rcases createDraft_error drafted with same | ⟨_, _, same⟩ <;> rw [same]
      rfl
    | ok e =>
      obtain ⟨_, _, _, _, _, _, _, books, _⟩ := createDraft_ok drafted
      rw [books]
      rfl
  | updateDraft c number req =>
    refine ids.of_index ?_ more generator
    simp only [Call.perform, Call.settle_snd]
    cases updated : (o.updateDraft c number req).1 with
    | error f => rw [updateDraft_error updated]
    | ok e =>
      obtain ⟨_, _, _, _, _, _, _, _, same⟩ := updateDraft_ok updated
      simp [same, Books.replaceEntry]
  | discardDraft c number =>
    refine ids.of_index ?_ more generator
    simp only [Call.perform]
    cases done : (o.discardDraft c number).1 with
    | error f => rw [discardDraft_error done]
    | ok u =>
      obtain ⟨_, _, _, _, same⟩ := discardDraft_ok done
      simp [same]
  | postEntry c number =>
    refine ids.of_index ?_ more generator
    simp only [Call.perform, Call.settle_snd]
    cases posted : (o.postEntry c number).1 with
    | error f => rw [postEntry_error posted]
    | ok e =>
      obtain ⟨_, _, _, _, writes, _, books⟩ := postEntry_ok posted
      simp [books, Books.replaceEntry, Books.applyWrites_eq]
  | reverseEntry c number =>
    refine ids.of_index ?_ more generator
    simp only [Call.perform, Call.settle_snd]
    cases reversed : (o.reverseEntry c number).1 with
    | error f => rw [(reverseEntry_error reversed).1]; rfl
    | ok pair =>
      obtain ⟨src', comp⟩ := pair
      obtain ⟨_, _, _, _, _, _, writes, b', _, stored, _, books⟩ := reverseEntry_ok reversed
      obtain ⟨_, rfl⟩ := Books.addEntry_eq_ok.mp stored
      simp [books, Books.replaceEntry, Books.applyWrites_eq]
      rfl

end Office.IdsIssued

theorem Office.run_idsIssued (pageSize : Nat) (ids : Nat → String) (calls : List Call) :
    ((Office.startWith pageSize ids).run calls).IdsIssued :=
  Office.run_invariant _ (fun _ call ids => ids.perform call)
    (fun _ indexed => by simp [Office.startWith] at indexed) calls

-- A session keeps the generator it starts with.
theorem Office.run_generator (o : Office) (calls : List Call) : (o.run calls).ids = o.ids :=
  Office.run_invariant (fun o' => o'.ids = o.ids) (fun o' call same => (Call.perform_generator (o := o') call).trans same) rfl
    calls

end Ledger
