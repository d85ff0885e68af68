import Ledger.Proofs.Commit
import Ledger.Proofs.Posting
import Ledger.Office.Reports

-- The services as ledger transactions. A staged run is followed call by call: the result it
-- ends with, the rule its calls keep given what the calls before did, and what holds of the
-- transaction when it succeeds. Every service body locks its entry first and its accounts once,
-- then writes only balances of the accounts it locked and the entry it locked, so its calls
-- keep the lock discipline whatever the store holds; and its result and the books it commits
-- are those of the same service read off the books directly.

namespace Ledger

namespace Conduct

theorem follows_append (rule : Conduct → TxCall → Bool) (m : Conduct) (calls more : List TxCall) :
    follows rule m (calls ++ more) = (follows rule m calls && follows rule (calls.foldl note m) more) := by
  induction calls generalizing m with
  | nil => simp [follows]
  | cons c rest ih => simp [follows, ih, Bool.and_assoc]

-- What the service bodies need a rule to allow: a first lock of an entry, the accounts locked
-- once, balances of locked accounts, and updates and removals of a locked entry not saved.
structure Admits (rule : Conduct → TxCall → Bool) : Prop where
  lockEntry : ∀ tenant number, rule {} (.lockEntry tenant number) = true
  lockAccounts : ∀ m tenant codes, m.accountsTaken = false → rule m (.lockAccounts tenant codes) = true
  setBalance : ∀ m w, accountKey w.tenant w.code ∈ m.accounts → rule m (.setBalance w) = true
  updateEntry : ∀ m e, e.key ∈ m.locked → e.key ∉ m.saved → rule m (.updateEntry e) = true
  deleteEntry : ∀ m tenant number, entryKey tenant number ∈ m.locked →
    rule m (.deleteEntry tenant number) = true

theorem admits_any : Admits fun _ _ => true :=
  ⟨fun _ _ => rfl, fun _ _ _ _ => rfl, fun _ _ _ => rfl, fun _ _ _ _ => rfl, fun _ _ _ _ => rfl⟩

theorem admits_plain (s : Tables) : Admits (plain s) where
  lockEntry _ _ := by simp [plain]
  lockAccounts _ _ _ free := by simp [plain, free]
  setBalance _ _ held := by simp [plain, held]
  updateEntry _ _ held unsaved := by simp [plain, held, unsaved]
  deleteEntry _ _ _ held := by simp [plain, held]

end Conduct

namespace Staged

-- The staged run of `x` over the store `s` from `tx` ends with `r`, its calls keeping to `rule`
-- from the conduct `m` on; when `r` is a value, `post` holds of it, of the conduct after the
-- calls and of the transaction after them.
def Runs {α : Type} (s : Tables) (rule : Conduct → TxCall → Bool) (m : Conduct) (tx : Staged)
    (x : TxBody α) (r : Except Fault α) (post : α → Conduct → Staged → Prop) : Prop :=
  (x.run (answer s) tx).2.1 = r ∧
    Conduct.follows rule m ((x.run (answer s) tx).1.map Sigma.fst) = true ∧
    ∀ a, r = .ok a →
      post a (((x.run (answer s) tx).1.map Sigma.fst).foldl Conduct.note m) (x.run (answer s) tx).2.2

namespace Runs

variable {α β : Type} {s : Tables} {rule : Conduct → TxCall → Bool} {m : Conduct} {tx : Staged}
  {post : α → Conduct → Staged → Prop}

theorem done {a : α} (holds : post a m tx) : Runs s rule m tx (pure a) (.ok a) post :=
  ⟨rfl, rfl, fun _ same => by cases same; exact holds⟩

theorem lifted {x : Except Fault α} (holds : ∀ a, x = .ok a → post a m tx) :
    Runs s rule m tx (TxBody.lift x) x post :=
  ⟨rfl, rfl, holds⟩

theorem thrown (e : Fault) : Runs s rule m tx (throw e : TxBody α) (.error e) post :=
  ⟨rfl, rfl, fun _ wrong => by cases wrong⟩

theorem request (c : TxCall) (allowed : rule m c = true) {post : c.Reply → Conduct → Staged → Prop}
    (holds : ∀ a, (answer s tx c).1 = .ok a → post a (m.note c) (answer s tx c).2) :
    Runs s rule m tx (TxBody.call c .finish) (answer s tx c).1 post :=
  ⟨rfl, by simp [TxBody.run_request, Conduct.follows, allowed], holds⟩

theorem bind_ok {x : TxBody α} {f : α → TxBody β} {a : α} {r : Except Fault β}
    {mid : α → Conduct → Staged → Prop} {post : β → Conduct → Staged → Prop}
    (first : Runs s rule m tx x (.ok a) mid)
    (rest : ∀ m' tx', mid a m' tx' → Runs s rule m' tx' (f a) r post) :
    Runs s rule m tx (x >>= f) r post := by
  obtain ⟨ends, keeps, holds⟩ := first
  have ran : x.run (answer s) tx = ((x.run (answer s) tx).1, .ok a, (x.run (answer s) tx).2.2) := by
    rw [← ends]
  obtain ⟨ends', keeps', holds'⟩ := rest _ _ (holds a rfl)
  unfold Runs
  rw [TxBody.run_bind_of_ok (answer s) tx ran, List.map_append, List.foldl_append,
    Conduct.follows_append, keeps, keeps']
  exact ⟨ends', rfl, holds'⟩

theorem bind_error {x : TxBody α} {f : α → TxBody β} {e : Fault} {post : β → Conduct → Staged → Prop}
    (first : Runs s rule m tx x (.error e) fun _ _ _ => True) :
    Runs s rule m tx (x >>= f) (.error e) post := by
  obtain ⟨ends, keeps, _⟩ := first
  have ran : x.run (answer s) tx = ((x.run (answer s) tx).1, .error e, (x.run (answer s) tx).2.2) := by
    rw [← ends]
  unfold Runs
  rw [TxBody.run_bind_of_error (answer s) tx ran]
  exact ⟨rfl, keeps, fun _ wrong => by cases wrong⟩

theorem mapError {x : TxBody α} {r : Except Fault α} (g : Fault → Fault) (ran : Runs s rule m tx x r post) :
    Runs s rule m tx (x.mapError g) (r.mapError g) post := by
  obtain ⟨ends, keeps, holds⟩ := ran
  unfold Runs
  rw [TxBody.run_mapError]
  refine ⟨by rw [ends], keeps, fun a value => holds a ?_⟩
  cases r with
  | error e => cases value
  | ok a' => cases value; rfl

-- A call that the transaction answers as given.
theorem answered {c : TxCall} {r : Except Fault c.Reply} {tx' : Staged} (allowed : rule m c = true)
    (reply : answer s tx c = (r, tx')) {post : c.Reply → Conduct → Staged → Prop}
    (holds : ∀ a, r = .ok a → post a (m.note c) tx') : Runs s rule m tx (TxBody.call c .finish) r post := by
  have ran : Runs s rule m tx (TxBody.call c .finish) (answer s tx c).1 post :=
    request c allowed (by rw [reply]; exact holds)
  rwa [reply] at ran

theorem weaken {x : TxBody α} {r : Except Fault α} {post' : α → Conduct → Staged → Prop}
    (ran : Runs s rule m tx x r post) (implies : ∀ a m' tx', post a m' tx' → post' a m' tx') :
    Runs s rule m tx x r post' :=
  ⟨ran.1, ran.2.1, fun a value => implies _ _ _ (ran.2.2 a value)⟩

-- A run that ends with a value needs its postcondition at that value only.
theorem weaken_ok {x : TxBody α} {a : α} {post' : α → Conduct → Staged → Prop}
    (ran : Runs s rule m tx x (.ok a) post) (implies : ∀ m' tx', post a m' tx' → post' a m' tx') :
    Runs s rule m tx x (.ok a) post' :=
  ⟨ran.1, ran.2.1, fun _ same => by cases same; exact implies _ _ (ran.2.2 a rfl)⟩

-- A failing run needs nothing of its postcondition.
theorem failed {x : TxBody α} {e : Fault} {post' : α → Conduct → Staged → Prop}
    (ran : Runs s rule m tx x (.error e) post) : Runs s rule m tx x (.error e) post' :=
  ⟨ran.1, ran.2.1, fun _ wrong => by cases wrong⟩

-- The writes a transaction stages, one lemma for each way it takes them.
theorem setLocked {w : BalanceWrite} (allowed : rule m (.setBalance w) = true)
    (locked : accountKey w.tenant w.code ∈ tx.lockedAccounts) :
    Runs s rule m tx (TxBody.setBalance w) (.ok ()) fun _ m' tx' =>
      m' = m ∧ tx' = { tx with balances := tx.balances ++ [w] } := by
  refine answered allowed ?_ fun _ _ => ⟨rfl, rfl⟩
  have held : tx.lockedAccounts.contains (accountKey w.tenant w.code) = true :=
    List.contains_iff_mem.mpr locked
  simp only [Staged.answer, held, ↓reduceIte]
  rfl

theorem saveFresh {e : Entry} (allowed : rule m (.saveEntry e) = true)
    (unstaged : stagedEntry tx.entryWrites e.key = none) :
    Runs s rule m tx (TxBody.saveEntry e) (.ok ()) fun _ m' tx' =>
      m' = m.note (.saveEntry e) ∧ tx' = { tx with
        newEntries := tx.newEntries ++ [e.key]
        entryWrites := tx.entryWrites ++ [.insert e] } := by
  refine answered allowed ?_ fun _ _ => ⟨rfl, rfl⟩
  simp only [Staged.answer, unstaged, Option.isSome_none, Bool.false_eq_true, ↓reduceIte]
  rfl

theorem updateSaved {e : Entry} (allowed : rule m (.updateEntry e) = true) (saved : e.key ∈ tx.newEntries) :
    Runs s rule m tx (TxBody.updateEntry e) (.ok ()) fun _ m' tx' =>
      m' = m.note (.updateEntry e) ∧
        tx' = { tx with entryWrites := tx.entryWrites.filter (·.key != e.key) ++ [.insert e] } := by
  refine answered allowed ?_ fun _ _ => ⟨rfl, rfl⟩
  have new : tx.newEntries.contains e.key = true := List.contains_iff_mem.mpr saved
  simp only [Staged.answer, new, ↓reduceIte]
  rfl

theorem updateLocked {e : Entry} (allowed : rule m (.updateEntry e) = true)
    (locked : e.key ∈ tx.lockedEntries) (unsaved : e.key ∉ tx.newEntries) :
    Runs s rule m tx (TxBody.updateEntry e) (.ok ()) fun _ m' tx' =>
      m' = m.note (.updateEntry e) ∧ tx' = { tx with entryWrites := tx.entryWrites ++ [.update e] } := by
  refine answered allowed ?_ fun _ _ => ⟨rfl, rfl⟩
  have held : tx.lockedEntries.contains e.key = true := List.contains_iff_mem.mpr locked
  have old : tx.newEntries.contains e.key = false := by simpa using unsaved
  simp only [Staged.answer, held, old, Bool.false_eq_true, ↓reduceIte]
  rfl

theorem deleteLocked {tenant number : String} (allowed : rule m (.deleteEntry tenant number) = true)
    (locked : entryKey tenant number ∈ tx.lockedEntries) :
    Runs s rule m tx (TxBody.deleteEntry tenant number) (.ok ()) fun _ m' tx' =>
      m' = m.note (.deleteEntry tenant number) ∧
        tx' = { tx with entryWrites := tx.entryWrites ++ [.delete tenant number] } := by
  refine answered allowed ?_ fun _ _ => ⟨rfl, rfl⟩
  have held : tx.lockedEntries.contains (entryKey tenant number) = true := List.contains_iff_mem.mpr locked
  simp only [Staged.answer, held, ↓reduceIte]
  rfl

end Runs

end Staged

-- The accounts that a lookup finds for the codes depend only on what it finds for them.
theorem holdFound_congr {found found' : String → Option Account} {tenant : String} {codes : List String}
    (same : ∀ code ∈ codes, found code = found' code) :
    holdFound found tenant codes = holdFound found' tenant codes := by
  unfold holdFound
  induction codes with
  | nil => rfl
  | cons code rest ih =>
    simp only [List.mapM_cons, same code List.mem_cons_self,
      ih fun code' member => same code' (List.mem_cons_of_mem _ member)]

-- Each held account is the one its code names in the tenant, and its key is locked.
def HeldIn (tenant : String) (locked : List String) (held : Held) : Prop :=
  ∀ code a, held.lookup code = some a →
    accountKey a.tenant a.code = accountKey tenant code ∧ accountKey tenant code ∈ locked

-- Staged balances that store the writes `writes`, each by the user at the time.
def Stages (user : String) (now : Timestamp) (ws : List BalanceWrite) (writes : List (String × Decimal)) :
    Prop :=
  ws.map (fun w => (accountKey w.tenant w.code, w.balance)) = writes ∧ ∀ w ∈ ws, w.user = user ∧ w.now = now

theorem Stages.append {user : String} {now : Timestamp} {ws ws' : List BalanceWrite}
    {writes writes' : List (String × Decimal)} (first : Stages user now ws writes)
    (more : Stages user now ws' writes') : Stages user now (ws ++ ws') (writes ++ writes') := by
  refine ⟨by rw [List.map_append, first.1, more.1], fun w member => ?_⟩
  rcases List.mem_append.mp member with early | late
  · exact first.2 w early
  · exact more.2 w late

theorem Books.foldl_putBalance {user : String} {now : Timestamp} {ws : List BalanceWrite}
    {writes : List (String × Decimal)} (stages : Stages user now ws writes) (b : Books) :
    ws.foldl Books.putBalance b = b.applyWrites writes user now := by
  obtain ⟨rfl, stamped⟩ := stages
  induction ws generalizing b with
  | nil => rfl
  | cons w rest ih =>
    obtain ⟨byUser, atNow⟩ := stamped w List.mem_cons_self
    simp only [List.foldl_cons, List.map_cons, Books.applyWrites] at ih ⊢
    rw [ih _ (fun w' member => stamped w' (List.mem_cons_of_mem _ member))]
    simp [Books.putBalance, byUser, atNow]

theorem HeldIn.applyPosting {tenant : String} {locked : List String} {held held' : Held} {code : String}
    {debit credit balance : Decimal} {user : String} {now : Timestamp} (heldIn : HeldIn tenant locked held)
    (posted : Ledger.applyPosting held code debit credit user now = .ok (balance, held')) :
    HeldIn tenant locked held' := by
  obtain ⟨a, found, -, rfl⟩ := applyPosting_eq_ok posted
  intro code' a' found'
  rw [lookup_replace found] at found'
  split at found'
  · rename_i same
    cases found'
    subst same
    exact heldIn _ a found
  · exact heldIn code' a' found'

theorem answer_lockEntry_start {b : Books} (tenant : String) (number : Ref) :
    Staged.answer b.tables {} (.lockEntry tenant number) =
      if number.exact then
        (match b.entry? (entryKey tenant number.text) with
          | some e => .ok e
          | none => .error (.entryMissing number.text), { lockedEntries := [entryKey tenant number.text] })
      else (.error (.entryMissing number.text), {}) := by
  cases exact : number.exact with
  | false => simp [Staged.answer, exact]
  | true =>
    simp only [Staged.answer, exact, Bool.false_eq_true, ↓reduceIte, Bool.not_true, stagedEntry,
      List.nil_append, List.reverse_nil, List.find?_nil, Books.tables_entries]
    cases b.entry? (entryKey tenant number.text) <;> rfl

-- A held code is one of the codes asked for.
theorem holdAccounts_lookup_mem {b : Books} {tenant : String} {codes : List String} {held : Held}
    (hold : b.holdAccounts tenant codes = .ok held) {code : String} {a : Account}
    (found : held.lookup code = some a) : code ∈ codes := by
  unfold Books.holdAccounts at hold
  obtain ⟨pre, post, rfl, _⟩ := List.lookup_eq_some_iff.mp found
  obtain ⟨x, listed, taken⟩ := mapM_eq_ok_mem hold (y := (code, a)) (by simp)
  have named : x = code := by
    split at taken
    · cases taken
    · split at taken
      · cases taken
      · split at taken
        · cases taken
        · cases taken
          rfl
  subst named
  exact (mem_sortBy _).mp (List.mem_eraseDups.mp listed)

-- The accounts held for a posting are its tenant's, under the keys it locked.
theorem HeldIn.holdAccounts {b : Books} {tenant : String} {codes : List String} {held : Held}
    (hold : b.holdAccounts tenant codes = .ok held) (locked : List String) :
    HeldIn tenant (locked ++ (sortBy (fun x y => !decide (y < x)) codes).map (accountKey tenant)) held := by
  intro code a found
  obtain ⟨stored, tenant', -⟩ := holdAccounts_lookup hold found
  refine ⟨(Books.account?_some stored).2, ?_⟩
  exact List.mem_append_right _
    (List.mem_map_of_mem ((mem_sortBy _).mpr (holdAccounts_lookup_mem hold found)))

theorem Except.map_bind {ε α β γ : Type} (x : Except ε α) (g : α → Except ε β) (f : β → γ) :
    (x >>= g).map f = x >>= fun a => (g a).map f := by
  cases x <;> rfl

theorem Except.map_eq_bind_ok {ε α β : Type} (x : Except ε α) (f : α → β) :
    x.map f = x >>= fun a => .ok (f a) := by
  cases x <;> rfl

namespace Office

-- The entry a transaction body locks by its number, refused when `refuse` holds of it, read off
-- the books.
def checkedEntry (b : Books) (tenant : String) (number : Ref) (refuse : Entry → Bool)
    (fault : Entry → Fault) : Except Fault Entry := do
  let e ← entryByNumber b tenant number
  if refuse e then throw (fault e)
  pure e

-- Posting a draft read off the books: the draft found and posted, with the balances it writes.
def postPlan (b : Books) (c : Ctx) (number : Ref) : Except Fault (Entry × List (String × Decimal)) :=
  checkedEntry b c.tenant number (·.status != .draft) (fun e => .notDraft e.number e.status .post) >>=
    postLines b c

-- The source of a reversal read off the books: posted, and not reversed yet.
def sourcePlan (b : Books) (c : Ctx) (number : Ref) : Except Fault Entry :=
  checkedEntry b c.tenant number (fun src => src.status == .reversed || !src.reversedBy.isEmpty)
      (fun src => .alreadyReversed src.number src.reversedBy) >>= fun src =>
    if src.status != .posted then .error (.notPostedYet src.number src.status) else .ok src

-- An entry found by number is stored under the key of the name, which is text, and is the
-- tenant's.
theorem entryByNumber_found {b : Books} {tenant : String} {number : Ref} {e : Entry}
    (found : entryByNumber b tenant number = .ok e) :
    b.entry? e.key = some e ∧ e.tenant = tenant ∧ e.key = entryKey tenant number.text ∧
      number.exact = true := by
  unfold entryByNumber at found
  cases exact : number.exact with
  | false => simp [exact] at found
  | true =>
    simp only [exact, ↓reduceIte] at found
    cases stored : b.entry? (entryKey tenant number.text) with
    | none => simp [stored] at found
    | some e' =>
      simp only [stored] at found
      by_cases foreign : (e'.tenant != tenant) = true
      · simp [foreign] at found
      · simp only [foreign, Bool.false_eq_true, ↓reduceIte, Except.ok.injEq] at found
        subst found
        have key := (Books.entry?_some stored).2
        exact ⟨key ▸ stored, by simpa using foreign, key, rfl⟩

theorem checkedEntry_eq_ok {b : Books} {tenant : String} {number : Ref} {refuse : Entry → Bool}
    {fault : Entry → Fault} {e : Entry} :
    checkedEntry b tenant number refuse fault = .ok e ↔
      entryByNumber b tenant number = .ok e ∧ refuse e = false := by
  unfold checkedEntry
  cases found : entryByNumber b tenant number with
  | error f => simp [bind, Except.bind]
  | ok e' =>
    by_cases refused : refuse e' = true
    · simp only [refused, ↓reduceIte, bind, Except.bind, throw, throwThe, MonadExceptOf.throw,
        reduceCtorEq, false_iff, not_and, Bool.not_eq_false]
      intro same
      cases same
      exact refused
    · simp only [refused, Bool.false_eq_true, ↓reduceIte, bind, Except.bind, pure, Except.pure,
        Except.ok.injEq]
      constructor
      · rintro rfl
        exact ⟨rfl, by simpa using refused⟩
      · rintro ⟨rfl, -⟩
        rfl

theorem sourcePlan_eq_ok {b : Books} {c : Ctx} {number : Ref} {src : Entry}
    (planned : sourcePlan b c number = .ok src) :
    entryByNumber b c.tenant number = .ok src ∧ src.status = .posted ∧ src.reversedBy = "" := by
  obtain ⟨e, checked, posted⟩ := Except.bind_eq_ok.mp planned
  obtain ⟨found, fresh⟩ := checkedEntry_eq_ok.mp checked
  by_cases early : (e.status != .posted) = true
  · simp [early] at posted
  · simp only [early, Bool.false_eq_true, ↓reduceIte, Except.ok.injEq] at posted
    subst posted
    simp only [Bool.or_eq_false_iff, Bool.not_eq_false', String.isEmpty_iff] at fresh
    exact ⟨found, by simpa using early, fresh.2⟩

end Office

section Bodies

variable {b : Books} {rule : Conduct → TxCall → Bool} (admits : Conduct.Admits rule)

include admits

-- A body's first lock finds what the books hold under the name.
theorem runs_lockEntry (tenant : String) (number : Ref) :
    Staged.Runs b.tables rule {} {} (Office.lockEntry tenant number) (Office.entryByNumber b tenant number)
      fun e m tx => m = { locked := [e.key] } ∧ tx = { lockedEntries := [e.key] } := by
  unfold Office.lockEntry Office.entryByNumber
  have allowed := admits.lockEntry tenant number
  cases exact : number.exact with
  | false =>
    have reply := answer_lockEntry_start (b := b) tenant number
    simp only [exact, Bool.false_eq_true, ↓reduceIte] at reply ⊢
    exact (Staged.Runs.answered allowed reply fun _ wrong => by cases wrong).bind_error
  | true =>
    have reply := answer_lockEntry_start (b := b) tenant number
    simp only [exact, ↓reduceIte] at reply ⊢
    cases found : b.entry? (entryKey tenant number.text) with
    | none =>
      rw [found] at reply
      exact (Staged.Runs.answered allowed reply fun _ wrong => by cases wrong).bind_error
    | some e =>
      rw [found] at reply
      have key := (Books.entry?_some found).2
      have locked : Staged.Runs b.tables rule {} {} (TxBody.lockEntry tenant number) (.ok e)
          fun e' m tx => e' = e ∧ m = { locked := [e.key] } ∧ tx = { lockedEntries := [e.key] } :=
        Staged.Runs.answered allowed reply fun _ same => by
          cases same
          simp [Conduct.note, exact, key]
      refine locked.bind_ok fun m tx placed => ?_
      obtain ⟨-, rfl, rfl⟩ := placed
      by_cases foreign : (e.tenant != tenant) = true
      · simp only [foreign, ↓reduceIte]
        exact (Staged.Runs.thrown _).bind_error
      · simp only [foreign, Bool.false_eq_true, ↓reduceIte]
        exact Staged.Runs.done ⟨rfl, rfl⟩

-- Locking a posting's accounts in ascending code order takes them from the books as holding them
-- there does.
theorem runs_holdLocked {m : Conduct} {tx : Staged} (free : m.accountsTaken = false)
    (untaken : tx.accountsTaken = false) (tenant : String) (codes : List String) :
    Staged.Runs b.tables rule m tx (holdLocked tenant codes) (b.holdAccounts tenant codes)
      fun held m' tx' => HeldIn tenant tx'.lockedAccounts held ∧
        m' = m.note (.lockAccounts tenant (sortBy (fun x y => !decide (y < x)) codes)) ∧
        tx' = { tx with
          accountsTaken := true
          lockedAccounts :=
            tx.lockedAccounts ++ (sortBy (fun x y => !decide (y < x)) codes).map (accountKey tenant) } := by
  let sorted := sortBy (fun x y => !decide (y < x)) codes
  let found := fun code => if sorted.contains code then b.account? (accountKey tenant code) else none
  have reply : Staged.answer b.tables tx (.lockAccounts tenant sorted) =
      (.ok found, { tx with
        accountsTaken := true
        lockedAccounts := tx.lockedAccounts ++ sorted.map (accountKey tenant) }) := by
    simp [Staged.answer, untaken, found]
  have locked : Staged.Runs b.tables rule m tx (TxBody.lockAccounts tenant sorted) (.ok found)
      fun found' m' tx' => found' = found ∧ m' = m.note (.lockAccounts tenant sorted) ∧
        tx' = { tx with
          accountsTaken := true
          lockedAccounts := tx.lockedAccounts ++ sorted.map (accountKey tenant) } :=
    Staged.Runs.answered (admits.lockAccounts m tenant sorted free) reply fun _ same => by
      cases same
      exact ⟨rfl, rfl, rfl⟩
  -- the accounts found for the codes taken are those stored under the codes
  have same : holdFound found tenant sorted.eraseDups = b.holdAccounts tenant codes := by
    refine holdFound_congr fun code member => ?_
    have listed : code ∈ sorted := List.mem_eraseDups.mp member
    simp [found, listed]
  unfold holdLocked TxBody.wrapping
  refine (locked.mapError _).bind_ok fun m' tx' placed => ?_
  obtain ⟨-, rfl, rfl⟩ := placed
  rw [← same]
  exact Staged.Runs.lifted fun held hold => ⟨HeldIn.holdAccounts (same ▸ hold) _, rfl, rfl⟩

-- One line posted to a held account stages the account's new balance, by the user at the time.
theorem runs_postTo {m : Conduct} {tx : Staged} {tenant : String} {held : Held}
    (heldIn : HeldIn tenant tx.lockedAccounts held) (same : m.accounts = tx.lockedAccounts)
    (code : String) (debit credit : Decimal) (user : String) (now : Timestamp) :
    Staged.Runs b.tables rule m tx (postTo held code debit credit user now)
      (applyPosting held code debit credit user now)
      fun r m' tx' => m' = m ∧ ∃ w, tx' = { tx with balances := tx.balances ++ [w] } ∧
        Stages user now [w] [(accountKey tenant code, r.1)] := by
  unfold postTo
  cases found : held.lookup code with
  | none =>
    rw [show applyPosting held code debit credit user now = .error .accountAbsent by
      simp [applyPosting, found]]
    exact Staged.Runs.thrown _
  | some a =>
    dsimp only
    cases posted : applyPosting held code debit credit user now with
    | error f => exact (Staged.Runs.lifted fun _ wrong => by cases wrong).bind_error
    | ok result =>
      obtain ⟨balance, held'⟩ := result
      have applied : Staged.Runs b.tables rule m tx
          (TxBody.lift (.ok (balance, held'))) (.ok (balance, held')) fun _ m' tx' => m' = m ∧ tx' = tx :=
        Staged.Runs.lifted fun _ _ => ⟨rfl, rfl⟩
      refine applied.bind_ok fun m' tx' placed => ?_
      obtain ⟨_, _⟩ := placed
      subst m' tx'
      dsimp only
      obtain ⟨key, lockedKey⟩ := heldIn code a found
      let w : BalanceWrite := ⟨a.tenant, a.code, balance, user, now⟩
      have held : accountKey w.tenant w.code ∈ tx.lockedAccounts := key ▸ lockedKey
      have reply : Staged.answer b.tables tx (.setBalance w) =
          (.ok (), { tx with balances := tx.balances ++ [w] }) := by
        simp [Staged.answer, held]
      have stored : Staged.Runs b.tables rule m tx (TxBody.setBalance w) (.ok ())
          fun _ m' tx' => m' = m ∧ tx' = { tx with balances := tx.balances ++ [w] } :=
        Staged.Runs.answered (admits.setBalance m w (same ▸ held)) reply fun _ _ => ⟨rfl, rfl⟩
      refine (stored.mapError _).bind_ok fun m' tx' placed => ?_
      obtain ⟨_, _⟩ := placed
      subst m' tx'
      exact Staged.Runs.done ⟨rfl, w, rfl, by simp [Stages, w, key]⟩

-- Posting lines to held accounts stages each account's new balance, line by line.
theorem runs_applyLinesLocked {m : Conduct} {tenant : String} (c : Ctx) :
    ∀ (lines : List Line) (held : Held) (tx : Staged), HeldIn tenant tx.lockedAccounts held →
      m.accounts = tx.lockedAccounts →
      Staged.Runs b.tables rule m tx (applyLinesLocked c lines held)
        ((applyLines tenant c lines held).map fun r => (r.1, r.2.1))
        fun r m' tx' => m' = m ∧ ∃ ws, tx' = { tx with balances := tx.balances ++ ws } ∧
          ∀ writes, applyLines tenant c lines held = .ok (r.1, r.2, writes) → Stages c.user c.now ws writes
  | [], held, tx, _, _ =>
    Staged.Runs.done ⟨rfl, [], by simp, fun _ applied => by cases applied; exact ⟨rfl, by simp⟩⟩
  | l :: rest, held, tx, heldIn, same => by
    have posted := runs_postTo (b := b) admits heldIn same l.code l.debit l.credit c.user c.now
    simp only [applyLinesLocked]
    cases applied : applyPosting held l.code l.debit l.credit c.user c.now with
    | error f =>
      rw [applied] at posted
      rw [show applyLines tenant c (l :: rest) held = .error (.atLine l.number f) by
        simp [applyLines, applied]]
      exact (posted.mapError (.atLine l.number)).failed.bind_error
    | ok result =>
      obtain ⟨balance, held₁⟩ := result
      rw [applied] at posted
      refine (posted.mapError (.atLine l.number)).bind_ok fun m₁ tx₁ placed => ?_
      obtain ⟨_, w, _, stage⟩ := placed
      subst m₁ tx₁
      dsimp only
      have rested := runs_applyLinesLocked c rest held₁ { tx with balances := tx.balances ++ [w] }
        (heldIn.applyPosting applied) same
      cases later : applyLines tenant c rest held₁ with
      | error f =>
        rw [later] at rested
        rw [show applyLines tenant c (l :: rest) held = .error f by simp [applyLines, applied, later]]
        exact rested.failed.bind_error
      | ok result' =>
        obtain ⟨out, held₂, writes⟩ := result'
        rw [later] at rested
        rw [show applyLines tenant c (l :: rest) held =
            .ok ({ l with accountName := ((held₁.lookup l.code).map (·.name)).getD "" } :: out, held₂,
              (accountKey tenant l.code, balance) :: writes) by simp [applyLines, applied, later]]
        refine rested.bind_ok fun m₂ tx₂ placed => ?_
        obtain ⟨_, ws, _, stages⟩ := placed
        subst m₂ tx₂
        refine Staged.Runs.done ⟨rfl, [w] ++ ws, by simp, fun writes' done => ?_⟩
        cases done
        exact stage.append (stages writes rfl)

-- Posting an entry within a transaction locks its accounts and stages the balances the posting
-- rules give, as posting it on the books does.
theorem runs_postLocked {m : Conduct} {tx : Staged} (free : m.accountsTaken = false)
    (untaken : tx.accountsTaken = false) (same : m.accounts = tx.lockedAccounts) (c : Ctx) (e : Entry) :
    Staged.Runs b.tables rule m tx (postLocked c e) ((postLines b c e).map Prod.fst)
      fun e' m' tx' => m' = m.note (.lockAccounts e.tenant (sortBy (fun x y => !decide (y < x)) e.codes)) ∧
        ∃ ws, tx' = { tx with
          accountsTaken := true
          lockedAccounts :=
            tx.lockedAccounts ++ (sortBy (fun x y => !decide (y < x)) e.codes).map (accountKey e.tenant)
          balances := tx.balances ++ ws } ∧
        ∀ writes, postLines b c e = .ok (e', writes) → Stages c.user c.now ws writes := by
  unfold postLocked
  cases checked : checkBalance e.lines with
  | error f =>
    rw [show postLines b c e = .error f by simp [postLines, checked, bind, Except.bind]]
    exact (Staged.Runs.lifted fun _ wrong => by cases wrong).bind_error
  | ok totals =>
    obtain ⟨debit, credit⟩ := totals
    have lifted : Staged.Runs b.tables rule m tx (TxBody.lift (.ok (debit, credit))) (.ok (debit, credit))
        fun _ m' tx' => m' = m ∧ tx' = tx :=
      Staged.Runs.lifted fun _ _ => ⟨rfl, rfl⟩
    refine lifted.bind_ok fun m₁ tx₁ placed => ?_
    obtain ⟨_, _⟩ := placed
    subst m₁ tx₁
    dsimp only
    have locked := runs_holdLocked (b := b) admits free untaken e.tenant e.codes
    cases hold : b.holdAccounts e.tenant e.codes with
    | error f =>
      rw [hold] at locked
      rw [show postLines b c e = .error f by simp [postLines, checked, hold, bind, Except.bind]]
      exact locked.failed.bind_error
    | ok held =>
      rw [hold] at locked
      refine locked.bind_ok fun m₁ tx₁ placed => ?_
      obtain ⟨heldIn, _, _⟩ := placed
      subst m₁ tx₁
      have posted := runs_applyLinesLocked (b := b) admits (m := m.note (.lockAccounts e.tenant
        (sortBy (fun x y => !decide (y < x)) e.codes))) c
        (sortBy (fun x y => decide (x.number ≤ y.number)) e.lines) held _ heldIn
        (by simp [Conduct.note, same])
      cases applied : applyLines e.tenant c (sortBy (fun x y => decide (x.number ≤ y.number)) e.lines) held with
      | error f =>
        rw [applied] at posted
        rw [show postLines b c e = .error f by simp [postLines, checked, hold, applied, bind, Except.bind]]
        exact posted.failed.bind_error
      | ok result =>
        obtain ⟨lines, held', writes⟩ := result
        rw [applied] at posted
        rw [show postLines b c e = .ok ({ e with
            lines, status := .posted, totalDebit := debit, totalCredit := credit, postedBy := c.user,
            postedAt := some c.now, audit := e.audit.touch c.user c.now }, writes) by
          simp [postLines, checked, hold, applied, bind, Except.bind, pure, Except.pure]]
        refine posted.bind_ok fun m₂ tx₂ placed => ?_
        obtain ⟨_, ws, _, stages⟩ := placed
        subst m₂ tx₂
        refine Staged.Runs.done ⟨rfl, ws, by simp, fun writes' done => ?_⟩
        cases done
        exact stages writes rfl

-- A body that locks an entry by its number and refuses it on a test goes on with the entry the
-- books hold, locked and nothing else.
theorem runs_lockChecked {β : Type} (tenant : String) (number : Ref) (refuse : Entry → Bool)
    (fault : Entry → Fault) (rest : Entry → TxBody β) (r : Entry → Except Fault β)
    {post : β → Conduct → Staged → Prop}
    (continues : ∀ e, Office.entryByNumber b tenant number = .ok e → refuse e = false →
      Staged.Runs b.tables rule { locked := [e.key] } { lockedEntries := [e.key] } (rest e) (r e) post) :
    Staged.Runs b.tables rule {} {}
      (do
        let e ← Office.lockEntry tenant number
        if refuse e then throw (fault e)
        rest e)
      (Office.checkedEntry b tenant number refuse fault >>= r) post := by
  have locked := runs_lockEntry (b := b) admits tenant number
  cases found : Office.entryByNumber b tenant number with
  | error f =>
    rw [found] at locked
    rw [show Office.checkedEntry b tenant number refuse fault = .error f by
      simp [Office.checkedEntry, found, bind, Except.bind]]
    exact locked.failed.bind_error
  | ok e =>
    rw [found] at locked
    refine locked.bind_ok fun m tx placed => ?_
    obtain ⟨rfl, rfl⟩ := placed
    by_cases refused : refuse e = true
    · rw [show Office.checkedEntry b tenant number refuse fault = .error (fault e) by
        simp [Office.checkedEntry, found, refused, bind, Except.bind, throw, throwThe,
          MonadExceptOf.throw]]
      simp only [refused, ↓reduceIte]
      exact (Staged.Runs.thrown _).bind_error
    · have fresh : refuse e = false := by simpa using refused
      rw [show Office.checkedEntry b tenant number refuse fault = .ok e from
        Office.checkedEntry_eq_ok.mpr ⟨found, fresh⟩]
      simp only [fresh, Bool.false_eq_true, ↓reduceIte]
      exact continues e found fresh

-- Posting a draft as a transaction: the draft locked and posted, its balances staged and the
-- posted entry staged as an update of it.
theorem runs_postBody (c : Ctx) (number : Ref) :
    Staged.Runs b.tables rule {} {} (Office.postBody c number) ((Office.postPlan b c number).map Prod.fst)
      fun e _ tx => ∃ writes, Office.postPlan b c number = .ok (e, writes) ∧
        Stages c.user c.now tx.balances writes ∧ tx.entryWrites = [.update e] := by
  unfold Office.postBody Office.postPlan
  rw [Except.map_bind]
  refine runs_lockChecked admits c.tenant number (·.status != .draft)
    (fun e => .notDraft e.number e.status .post) _ (fun e => (postLines b c e).map Prod.fst)
    fun e0 found draft => ?_
  have posted : Staged.Runs b.tables rule { locked := [e0.key] } { lockedEntries := [e0.key] }
      (postLocked c e0) _ _ := runs_postLocked admits rfl rfl rfl c e0
  cases lined : postLines b c e0 with
  | error f =>
    rw [lined] at posted
    exact posted.failed.bind_error
  | ok result =>
    obtain ⟨e, writes⟩ := result
    rw [lined] at posted
    refine posted.bind_ok fun m tx placed => ?_
    obtain ⟨rfl, ws, rfl, stages⟩ := placed
    have key : e.key = e0.key := (postLines_fields lined).2.2.1
    refine ((Staged.Runs.updateLocked (admits.updateEntry _ _ ?_ ?_) ?_ ?_).mapError _).bind_ok
      fun m tx placed => ?_
    · simp [Conduct.note, key]
    · simp [Conduct.note]
    · simp [key]
    · simp
    · obtain ⟨rfl, rfl⟩ := placed
      have planned : Office.checkedEntry b c.tenant number (·.status != .draft)
          (fun e => .notDraft e.number e.status .post) = .ok e0 :=
        Office.checkedEntry_eq_ok.mpr ⟨found, draft⟩
      refine Staged.Runs.done ⟨writes, by rw [planned]; exact lined, ?_, rfl⟩
      simpa using stages writes rfl

-- Editing a draft as a transaction: the draft locked and its new content staged as an update.
theorem runs_editBody (c : Ctx) (number : Ref) (req : EntryRequest) (lines : List Line)
    (debit credit : Decimal) :
    Staged.Runs b.tables rule {} {} (Office.editBody c number req lines debit credit)
      ((Office.checkedEntry b c.tenant number (·.status != .draft)
          (fun e => .notDraft e.number e.status .edit)).map fun e =>
        { e with
          date := if req.date.isZero then e.date else req.date, description := req.description,
          reference := req.reference, lines, totalDebit := debit, totalCredit := credit,
          audit := e.audit.touch c.user c.now })
      fun e _ tx => tx.balances = [] ∧ tx.entryWrites = [.update e] := by
  unfold Office.editBody
  rw [Except.map_eq_bind_ok]
  refine runs_lockChecked admits c.tenant number (·.status != .draft)
    (fun e => .notDraft e.number e.status .edit) _ _ fun e0 _ _ => ?_
  refine ((Staged.Runs.updateLocked (admits.updateEntry _ _ ?_ ?_) ?_ ?_).mapError _).bind_ok
    fun m tx placed => ?_
  · simp [Entry.key]
  · simp
  · simp [Entry.key]
  · simp
  · obtain ⟨rfl, rfl⟩ := placed
    exact Staged.Runs.done ⟨rfl, rfl⟩

-- Discarding a draft as a transaction: the draft locked and its removal staged.
theorem runs_discardBody (c : Ctx) (number : Ref) :
    Staged.Runs b.tables rule {} {} (Office.discardBody c number)
      ((Office.checkedEntry b c.tenant number (·.status != .draft)
        (fun e => .notDraft e.number e.status .discard)).map fun _ => ())
      fun _ _ tx => tx.balances = [] ∧ tx.entryWrites = [.delete c.tenant number.text] := by
  unfold Office.discardBody
  rw [Except.map_eq_bind_ok]
  refine runs_lockChecked admits c.tenant number (·.status != .draft)
    (fun e => .notDraft e.number e.status .discard) _ _ fun e0 found _ => ?_
  have key := (Office.entryByNumber_found found).2.2.1
  have held : entryKey c.tenant number.text ∈ [e0.key] := by simp [key]
  exact (Staged.Runs.deleteLocked (admits.deleteEntry _ _ _ held) held).weaken
    fun _ m tx placed => by obtain ⟨rfl, rfl⟩ := placed; exact ⟨rfl, rfl⟩

-- The source of a reversal, locked and checked.
theorem runs_reversalSource (c : Ctx) (number : Ref) :
    Staged.Runs b.tables rule {} {} (Office.reversalSource c number) (Office.sourcePlan b c number)
      fun src m tx => m = { locked := [src.key] } ∧ tx = { lockedEntries := [src.key] } ∧
        src.tenant = c.tenant ∧ b.entry? src.key = some src := by
  unfold Office.reversalSource Office.sourcePlan
  refine runs_lockChecked admits c.tenant number _ (fun src => .alreadyReversed src.number src.reversedBy)
    _ (fun src => if src.status != .posted then .error (.notPostedYet src.number src.status) else .ok src)
    fun src found _ => ?_
  dsimp only
  by_cases early : (src.status != .posted) = true
  · simp only [early, ↓reduceIte]
    exact (Staged.Runs.thrown _).bind_error
  · simp only [early, Bool.false_eq_true, ↓reduceIte]
    exact Staged.Runs.done ⟨rfl, rfl, (Office.entryByNumber_found found).2.1, (Office.entryByNumber_found found).1⟩

-- The reversal proper: the compensation posted and saved, the source marked reversed. When the
-- compensation's number names the source itself, the save stays an insert, of the marked source.
theorem runs_reversalBody (c : Ctx) (number : Ref) (id rv : String) (src : Entry)
    (saves : ∀ m e, e.key = entryKey c.tenant rv → m.written = [] → rule m (.saveEntry e) = true)
    (collides : entryKey c.tenant rv = src.key → ∀ m e, rule m (.updateEntry e) = true) :
    Staged.Runs b.tables rule { locked := [src.key] } { lockedEntries := [src.key] }
      (Office.reversalBody c number id rv src)
      ((postLines b c (Office.compensation c id rv src)).map fun p =>
        ({ src with status := .reversed, reversedBy := p.1.number, audit := src.audit.touch c.user c.now },
          p.1))
      fun r _ tx => ∃ writes, postLines b c (Office.compensation c id rv src) = .ok (r.2, writes) ∧
        Stages c.user c.now tx.balances writes ∧
        tx.entryWrites = if entryKey c.tenant rv = src.key then [.insert r.1] else [.insert r.2, .update r.1] := by
  unfold Office.reversalBody
  have posted : Staged.Runs b.tables rule { locked := [src.key] } { lockedEntries := [src.key] }
      (postLocked c (Office.compensation c id rv src)) _ _ := runs_postLocked admits rfl rfl rfl c _
  cases lined : postLines b c (Office.compensation c id rv src) with
  | error f =>
    rw [lined] at posted
    exact posted.failed.bind_error
  | ok result =>
    obtain ⟨comp, writes⟩ := result
    rw [lined] at posted
    refine posted.bind_ok fun m tx placed => ?_
    obtain ⟨rfl, ws, rfl, stages⟩ := placed
    have key : comp.key = entryKey c.tenant rv := (postLines_fields lined).2.2.1
    refine ((Staged.Runs.saveFresh (saves _ comp key rfl) (by simp [stagedEntry])).mapError _).bind_ok
      fun m tx placed => ?_
    obtain ⟨rfl, rfl⟩ := placed
    have same : ({ src with
        status := .reversed
        reversedBy := comp.number
        audit := src.audit.touch c.user c.now } : Entry).key = src.key := rfl
    by_cases collision : entryKey c.tenant rv = src.key
    · -- the compensation's key is the source's: the update stays the insert, of the marked source
      refine ((Staged.Runs.updateSaved (collides collision _ _) ?_).mapError _).bind_ok fun m tx placed => ?_
      · simp [same, key, collision]
      obtain ⟨rfl, rfl⟩ := placed
      refine Staged.Runs.done ⟨writes, rfl, by simpa using stages writes rfl, ?_⟩
      have dropped : EntryWrite.key (.insert comp) = src.key := by rw [← collision, ← key]; rfl
      simp [collision, dropped, same]
    · refine ((Staged.Runs.updateLocked (admits.updateEntry _ _ ?_ ?_) ?_ ?_).mapError _).bind_ok
        fun m tx placed => ?_
      · simp [Conduct.note, same]
      · simp [Conduct.note, same, key, Ne.symm collision]
      · simp [same]
      · simp [same, key, Ne.symm collision]
      · obtain ⟨rfl, rfl⟩ := placed
        exact Staged.Runs.done ⟨writes, rfl, by simpa using stages writes rfl, by simp [collision]⟩

-- Moving balances of held accounts stages each account's new balance, movement by movement.
theorem runs_moveBalances {m : Conduct} (c : Ctx) :
    ∀ (moves : List Office.Movement) (held : Held) (tx : Staged), HeldIn c.tenant tx.lockedAccounts held →
      m.accounts = tx.lockedAccounts →
      Staged.Runs b.tables rule m tx (Office.moveBalances c moves held)
        ((Office.applyMovements held c c.tenant moves).map Prod.fst)
        fun balances m' tx' => m' = m ∧ ∃ ws, tx' = { tx with balances := tx.balances ++ ws } ∧
          ∀ writes, Office.applyMovements held c c.tenant moves = .ok (balances, writes) →
            Stages c.user c.now ws writes
  | [], held, tx, _, _ =>
    Staged.Runs.done ⟨rfl, [], by simp, fun _ applied => by cases applied; exact ⟨rfl, by simp⟩⟩
  | mv :: rest, held, tx, heldIn, same => by
    have posted := runs_postTo (b := b) admits heldIn same mv.code mv.debit mv.credit c.user c.now
    simp only [Office.moveBalances]
    cases applied : applyPosting held mv.code mv.debit mv.credit c.user c.now with
    | error f =>
      rw [applied] at posted
      rw [show Office.applyMovements held c c.tenant (mv :: rest) = .error f by
        simp [Office.applyMovements, applied, bind, Except.bind]]
      exact posted.failed.bind_error
    | ok result =>
      obtain ⟨balance, held₁⟩ := result
      rw [applied] at posted
      refine posted.bind_ok fun m₁ tx₁ placed => ?_
      obtain ⟨_, w, _, stage⟩ := placed
      subst m₁ tx₁
      have rested := runs_moveBalances c rest held₁ { tx with balances := tx.balances ++ [w] }
        (heldIn.applyPosting applied) same
      cases later : Office.applyMovements held₁ c c.tenant rest with
      | error f =>
        rw [later] at rested
        rw [show Office.applyMovements held c c.tenant (mv :: rest) = .error f by
          simp [Office.applyMovements, applied, later, bind, Except.bind]]
        exact rested.failed.bind_error
      | ok result' =>
        obtain ⟨balances, writes⟩ := result'
        rw [later] at rested
        rw [show Office.applyMovements held c c.tenant (mv :: rest) =
            .ok (balance :: balances, (accountKey c.tenant mv.code, balance) :: writes) by
          simp [Office.applyMovements, applied, later, bind, Except.bind, pure, Except.pure]]
        refine rested.bind_ok fun m₂ tx₂ placed => ?_
        obtain ⟨_, ws, _, stages⟩ := placed
        subst m₂ tx₂
        refine Staged.Runs.done ⟨rfl, [w] ++ ws, by simp, fun writes' done => ?_⟩
        cases done
        exact stage.append (stages writes rfl)

-- A direct posting as a transaction: the accounts taken once, then each movement's balance staged.
theorem runs_directBody (c : Ctx) (moves : List Office.Movement) (lock : Option (List String)) :
    Staged.Runs b.tables rule {} {} (Office.directBody c moves lock)
      ((b.holdAccounts c.tenant (lock.getD (moves.map (·.code))) >>= fun held =>
        Office.applyMovements held c c.tenant moves).map Prod.fst)
      fun balances _ tx => ∃ writes, (b.holdAccounts c.tenant (lock.getD (moves.map (·.code))) >>=
          fun held => Office.applyMovements held c c.tenant moves) = .ok (balances, writes) ∧
        Stages c.user c.now tx.balances writes ∧ tx.entryWrites = [] := by
  unfold Office.directBody
  rw [Except.map_bind]
  have locked := runs_holdLocked (b := b) admits (m := {}) rfl (rfl : Staged.accountsTaken {} = false) c.tenant
    (lock.getD (moves.map (·.code)))
  cases hold : b.holdAccounts c.tenant (lock.getD (moves.map (·.code))) with
  | error f =>
    rw [hold] at locked
    exact locked.failed.bind_error
  | ok held =>
    rw [hold] at locked
    refine locked.bind_ok fun m tx placed => ?_
    obtain ⟨heldIn, noted, rfl⟩ := placed
    have moved := runs_moveBalances (b := b) admits (m := m) c moves held _ heldIn
      (by simp [noted, Conduct.note])
    show Staged.Runs _ _ _ _ _ ((Office.applyMovements held c c.tenant moves).map Prod.fst)
      fun balances _ tx => ∃ writes, Office.applyMovements held c c.tenant moves = .ok (balances, writes) ∧
        Stages c.user c.now tx.balances writes ∧ tx.entryWrites = []
    cases applied : Office.applyMovements held c c.tenant moves with
    | error f =>
      rw [applied] at moved
      exact moved.failed
    | ok result =>
      obtain ⟨balances, writes⟩ := result
      rw [applied] at moved
      refine moved.weaken_ok fun m' tx' placed => ?_
      obtain ⟨_, ws, rfl, stages⟩ := placed
      exact ⟨writes, rfl, by simpa using stages writes rfl, rfl⟩

end Bodies

-- Within a tenant a key names one number.
theorem entryKey_number_inj {tenant number number' : String}
    (same : entryKey tenant number = entryKey tenant number') : number = number' := by
  have chars := congrArg String.toList same
  simp only [entryKey, String.toList_append] at chars
  exact String.toList_injective (List.append_cancel_left chars)

namespace Books

variable {b : Books} {rule : Conduct → TxCall → Bool} {m : Conduct} {α : Type} {body : TxBody α}
  {post : α → Conduct → Staged → Prop}

theorem withinTx_of_error {f : Fault} (ran : Staged.Runs b.tables rule m {} body (.error f) post) :
    b.withinTx body = (.error f, b) := by
  obtain ⟨ends, -, -⟩ := ran
  unfold withinTx
  rcases staged : body.run (Staged.answer b.tables) {} with ⟨trace, r, tx⟩
  rw [staged] at ends
  cases ends
  rfl

-- A body that succeeds leaves the books as committing what it staged does.
theorem withinTx_of_ok {a : α} (ran : Staged.Runs b.tables rule m {} body (.ok a) post) :
    ∃ m' tx, post a m' tx ∧ b.withinTx body = ((b.commit tx).1.map fun _ => a, (b.commit tx).2) := by
  obtain ⟨ends, -, holds⟩ := ran
  refine ⟨_, _, holds a rfl, ?_⟩
  unfold withinTx
  rcases staged : body.run (Staged.answer b.tables) {} with ⟨trace, r, tx⟩
  rw [staged] at ends
  cases ends
  simp only
  rcases b.commit tx with ⟨result, b'⟩
  cases result <;> rfl

-- A body that succeeds, its staged writes committing to `after`, leaves the books `after`.
theorem withinTx_of_committed {a : α} (after : Books) (ran : Staged.Runs b.tables rule m {} body (.ok a) post)
    (commits : ∀ m' tx, post a m' tx → b.commit tx = (.ok (), after)) : b.withinTx body = (.ok a, after) := by
  obtain ⟨m', tx, holds, done⟩ := withinTx_of_ok ran
  rw [done, commits m' tx holds]
  rfl

theorem withinTxAfter_of_error {β : Type} {first : TxBody β} {rest : β → TxBody α} {f : Fault}
    (failed : (first.run (Staged.answer b.tables) {}).2.1 = .error f) :
    b.withinTxAfter first rest = (.error f, false, b) := by
  unfold withinTxAfter
  rcases ran : first.run (Staged.answer b.tables) {} with ⟨trace, r, tx⟩
  rw [ran] at failed
  cases failed
  rfl

-- Once its first part succeeds, a body in two parts runs as the two bound together.
theorem withinTxAfter_of_ok {β : Type} {first : TxBody β} {rest : β → TxBody α} {x : β}
    (succeeded : (first.run (Staged.answer b.tables) {}).2.1 = .ok x) :
    b.withinTxAfter first rest =
      ((b.withinTx (first >>= rest)).1, true, (b.withinTx (first >>= rest)).2) := by
  rcases ran : first.run (Staged.answer b.tables) {} with ⟨trace, r, tx⟩
  rw [ran] at succeeded
  cases succeeded
  unfold withinTxAfter withinTx
  rw [TxBody.run_bind_of_ok (Staged.answer b.tables) {} ran, ran]
  simp only
  rcases (rest x).run (Staged.answer b.tables) tx with ⟨trace', r', tx'⟩
  cases r' with
  | error e => rfl
  | ok a =>
    simp only
    rcases b.commit tx' with ⟨r'', b'⟩
    cases r'' <;> rfl

section Commits

variable {tx : Staged}

theorem commit_balances (written : tx.entryWrites = []) :
    b.commit tx = (.ok (), tx.balances.foldl putBalance b) := by
  simp [commit, written, Tables.clash, applyEntryWrites]

theorem commit_update {e : Entry} (written : tx.entryWrites = [.update e]) :
    b.commit tx = (.ok (), (tx.balances.foldl putBalance b).putEntry e) := by
  simp [commit, written, Tables.clash, EntryWrite.inserted, applyEntryWrites]

theorem commit_delete {tenant number : String} (written : tx.entryWrites = [.delete tenant number]) :
    b.commit tx = (.ok (), (tx.balances.foldl putBalance b).removeEntry (entryKey tenant number)) := by
  simp [commit, written, Tables.clash, EntryWrite.inserted, applyEntryWrites]

-- An insert over a stored key is refused at the commit's check, before anything is written.
theorem commit_insert_stored {e : Entry} (written : tx.entryWrites = [.insert e])
    (stored : (b.entry? e.key).isSome) : b.commit tx = (.error (.duplicateEntry e.number), b) := by
  simp [commit, written, Tables.clash, EntryWrite.inserted, Option.filter, stored]

theorem commit_insert_update {e e' : Entry} (written : tx.entryWrites = [.insert e, .update e']) :
    b.commit tx = match (tx.balances.foldl putBalance b).addEntry e with
      | .error f => (.error f, b)
      | .ok b' => (.ok (), b'.putEntry e') := by
  have same := entry?_foldl_putBalance (b := b) tx.balances
  by_cases taken : (b.entry? e.key).isSome = true
  · simp [commit, written, Tables.clash, EntryWrite.inserted, Option.filter, taken, addEntry, same]
  · simp [commit, written, Tables.clash, EntryWrite.inserted, Option.filter, taken, addEntry, same,
      applyEntryWrites]

end Commits

theorem putEntry_of_stored {e : Entry} (stored : (b.entry? e.key).isSome) : b.putEntry e = b.replaceEntry e := by
  simp [putEntry, stored]

@[simp] theorem entry?_applyWrites (writes : List (String × Decimal)) (user : String) (now : Timestamp) :
    Books.entry? (b.applyWrites writes user now) = b.entry? := by
  funext k
  simp [Books.entry?]

-- The entry a service body checks is stored under its own key.
theorem checkedEntry_stored {tenant : String} {number : Ref} {refuse : Entry → Bool} {fault : Entry → Fault}
    {e : Entry} (checked : Office.checkedEntry b tenant number refuse fault = .ok e) :
    (b.entry? e.key).isSome := by
  rw [(Office.entryByNumber_found (Office.checkedEntry_eq_ok.mp checked).1).1]
  rfl

-- Posting a draft as a transaction gives the entry posting it on the books gives, and stores the
-- balances and the posted entry.
theorem withinTx_postBody (c : Ctx) (number : Ref) :
    b.withinTx (Office.postBody c number) =
      match Office.postPlan b c number with
      | .error f => (.error f, b)
      | .ok (e, writes) => (.ok e, (b.applyWrites writes c.user c.now).replaceEntry e) := by
  have ran := runs_postBody (b := b) Conduct.admits_any c number
  cases planned : Office.postPlan b c number with
  | error f =>
    rw [planned] at ran
    exact withinTx_of_error ran
  | ok result =>
    obtain ⟨e, writes⟩ := result
    rw [planned] at ran
    refine withinTx_of_committed _ ran fun m' tx ⟨writes', same, stages, written⟩ => ?_
    cases same
    obtain ⟨e0, checked, posted⟩ := Except.bind_eq_ok.mp planned
    have stored : (b.entry? e.key).isSome := by
      rw [(postLines_fields posted).2.2.1]
      exact checkedEntry_stored checked
    rw [commit_update written, foldl_putBalance stages,
      putEntry_of_stored (by rw [Books.entry?_applyWrites]; exact stored)]

-- Editing a draft as a transaction writes the edited draft in its place.
theorem withinTx_editBody (c : Ctx) (number : Ref) (req : EntryRequest) (lines : List Line)
    (debit credit : Decimal) :
    b.withinTx (Office.editBody c number req lines debit credit) =
      match Office.checkedEntry b c.tenant number (·.status != .draft)
          (fun e => .notDraft e.number e.status .edit) with
      | .error f => (.error f, b)
      | .ok e0 =>
        let e : Entry := { e0 with
          date := if req.date.isZero then e0.date else req.date
          description := req.description
          reference := req.reference
          lines := lines
          totalDebit := debit
          totalCredit := credit
          audit := e0.audit.touch c.user c.now }
        (.ok e, b.replaceEntry e) := by
  have ran := runs_editBody (b := b) Conduct.admits_any c number req lines debit credit
  cases checked : Office.checkedEntry b c.tenant number (·.status != .draft)
      (fun e => .notDraft e.number e.status .edit) with
  | error f =>
    rw [checked] at ran
    exact withinTx_of_error ran
  | ok e0 =>
    rw [checked] at ran
    refine withinTx_of_committed _ ran fun m' tx ⟨unmoved, written⟩ => ?_
    rw [commit_update written, unmoved, List.foldl_nil, putEntry_of_stored]
    -- the edited draft keeps the draft's key
    show (b.entry? e0.key).isSome
    exact checkedEntry_stored checked

-- Discarding a draft as a transaction removes it.
theorem withinTx_discardBody (c : Ctx) (number : Ref) :
    b.withinTx (Office.discardBody c number) =
      match Office.checkedEntry b c.tenant number (·.status != .draft)
          (fun e => .notDraft e.number e.status .discard) with
      | .error f => (.error f, b)
      | .ok e0 => (.ok (), b.removeEntry e0.key) := by
  have ran := runs_discardBody (b := b) Conduct.admits_any c number
  cases checked : Office.checkedEntry b c.tenant number (·.status != .draft)
      (fun e => .notDraft e.number e.status .discard) with
  | error f =>
    rw [checked] at ran
    exact withinTx_of_error ran
  | ok e0 =>
    rw [checked] at ran
    refine withinTx_of_committed _ ran fun m' tx ⟨unmoved, written⟩ => ?_
    have key := (Office.entryByNumber_found (Office.checkedEntry_eq_ok.mp checked).1).2.2.1
    rw [commit_delete written, unmoved, key]
    rfl

-- A direct posting as a transaction writes the balances its movements give.
theorem withinTx_directBody (c : Ctx) (moves : List Office.Movement) (lock : Option (List String)) :
    b.withinTx (Office.directBody c moves lock) =
      match b.holdAccounts c.tenant (lock.getD (moves.map (·.code))) >>= fun held =>
          Office.applyMovements held c c.tenant moves with
      | .error f => (.error f, b)
      | .ok (balances, writes) => (.ok balances, b.applyWrites writes c.user c.now) := by
  have ran := runs_directBody (b := b) Conduct.admits_any c moves lock
  cases planned : b.holdAccounts c.tenant (lock.getD (moves.map (·.code))) >>= fun held =>
      Office.applyMovements held c c.tenant moves with
  | error f =>
    rw [planned] at ran
    exact withinTx_of_error ran
  | ok result =>
    obtain ⟨balances, writes⟩ := result
    rw [planned] at ran
    refine withinTx_of_committed _ ran fun m' tx ⟨writes', same, stages, written⟩ => ?_
    cases same
    rw [commit_balances written, foldl_putBalance stages]

-- Reversing as a transaction: a source that passes its checks is marked reversed by its
-- compensation, which is posted and stored with the balances it writes. A compensation whose key
-- is taken, the source's own included, is refused as a duplicate and nothing is written.
theorem withinTxAfter_reversal (c : Ctx) (number : Ref) (id rv : String) :
    b.withinTxAfter (Office.reversalSource c number) (Office.reversalBody c number id rv) =
      match Office.sourcePlan b c number with
      | .error f => (.error f, false, b)
      | .ok src =>
        match postLines b c (Office.compensation c id rv src) with
        | .error f => (.error f, true, b)
        | .ok (comp, writes) =>
          match (b.applyWrites writes c.user c.now).addEntry comp with
          | .error f => (.error f, true, b)
          | .ok b' =>
            let src' : Entry := { src with
              status := .reversed
              reversedBy := comp.number
              audit := src.audit.touch c.user c.now }
            (.ok (src', comp), true, b'.replaceEntry src') := by
  have first := runs_reversalSource (b := b) Conduct.admits_any c number
  cases planned : Office.sourcePlan b c number with
  | error f =>
    rw [planned] at first
    exact withinTxAfter_of_error first.1
  | ok src =>
    rw [planned] at first
    obtain ⟨-, -, tenant, stored⟩ := first.2.2 src rfl
    rw [withinTxAfter_of_ok first.1]
    dsimp only
    have ran := first.bind_ok (f := Office.reversalBody c number id rv) fun m tx placed => by
      obtain ⟨rfl, rfl, -⟩ := placed
      exact runs_reversalBody Conduct.admits_any c number id rv src (fun _ _ _ _ => rfl) fun _ _ _ => rfl
    cases lined : postLines b c (Office.compensation c id rv src) with
    | error f =>
      rw [lined] at ran
      rw [withinTx_of_error ran]
    | ok result =>
      obtain ⟨comp, writes⟩ := result
      rw [lined] at ran
      obtain ⟨m', tx, ⟨writes', same, stages, written⟩, done⟩ := withinTx_of_ok ran
      cases same
      have key : comp.key = entryKey c.tenant rv := (postLines_fields lined).2.2.1
      rw [done]
      dsimp only
      by_cases collision : entryKey c.tenant rv = src.key
      · -- the compensation takes the source's number: the commit refuses the marked source, and
        -- adding the compensation would refuse it, under the same number
        rw [if_pos collision] at written
        have numbered : src.number = comp.number := by
          have keyed : entryKey c.tenant rv = entryKey c.tenant src.number := by
            rw [collision, Entry.key, tenant]
          rw [(postLines_fields lined).2.1, ← entryKey_number_inj keyed]
          rfl
        have taken : (b.entry? comp.key).isSome := by rw [key, collision, stored]; rfl
        have refused : (b.applyWrites writes c.user c.now).addEntry comp = .error (.duplicateEntry comp.number) := by
          simp [addEntry, taken]
        have marked : (b.entry? src.key).isSome := by rw [stored]; rfl
        rw [commit_insert_stored written marked, refused, ← numbered]
        rfl
      · rw [if_neg collision] at written
        rw [commit_insert_update written, foldl_putBalance stages]
        cases added : (b.applyWrites writes c.user c.now).addEntry comp with
        | error f => rfl
        | ok b' =>
          have kept : (b'.entry? src.key).isSome := by
            rw [Books.entry?_addEntry added, if_neg fun same => collision (same.trans key).symm,
              entry?_applyWrites, stored]
            rfl
          dsimp only
          rw [putEntry_of_stored]
          · rfl
          · exact kept

end Books

end Ledger
