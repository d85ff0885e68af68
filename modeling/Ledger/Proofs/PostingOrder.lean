import Ledger.Proofs.Run

-- The posting order numbers the entries out of draft in the order they left draft: the numbers
-- rise along the list and none passes the last number given. An entry leaving draft takes the
-- next number and goes last, a removal keeps the rest in order, and nothing else touches the
-- list; so every session keeps it, and reading the list by number reads it as stored.

namespace Ledger

namespace Books

structure Numbered (b : Books) : Prop where
  increasing : (b.postOrder.map (·.2)).Pairwise (· < ·)
  bounded : ∀ p ∈ b.postOrder, p.2 ≤ b.postSeq

namespace Numbered

variable {b b' : Books}

theorem empty : ({} : Books).Numbered :=
  ⟨List.Pairwise.nil, fun _ member => by simp at member⟩

theorem of_postOrder (ordered : b.Numbered) (order : b'.postOrder = b.postOrder)
    (seq : b'.postSeq = b.postSeq) : b'.Numbered := by
  constructor
  · rw [order]
    exact ordered.increasing
  · intro p member
    rw [order] at member
    rw [seq]
    exact ordered.bounded p member

-- Dropping bindings keeps the rest in order.
theorem filter (ordered : b.Numbered) (keep : String × Nat → Bool)
    (order : b'.postOrder = b.postOrder.filter keep) (seq : b'.postSeq = b.postSeq) : b'.Numbered := by
  constructor
  · rw [order]
    exact (List.pairwise_map.mpr ((List.pairwise_map.mp ordered.increasing).sublist List.filter_sublist))
  · intro p member
    rw [order] at member
    rw [seq]
    exact ordered.bounded p (List.mem_of_mem_filter member)

-- An entry leaving draft is numbered one past every number given, and goes last.
theorem notePosting (ordered : b.Numbered) (k : String) (s : EntryStatus) :
    (b.notePosting k s).Numbered := by
  unfold Books.notePosting
  split
  · exact ordered
  · have kept : ∀ p ∈ b.postOrder.filter (·.1 != k), p.2 ≤ b.postSeq := fun p member =>
      ordered.bounded p (List.mem_of_mem_filter member)
    constructor
    · simp only [setKey, List.map_append, List.map_cons, List.map_nil]
      refine List.pairwise_append.mpr ⟨?_, List.pairwise_singleton _ _, fun n earlier m last => ?_⟩
      · exact List.pairwise_map.mpr ((List.pairwise_map.mp ordered.increasing).sublist List.filter_sublist)
      · obtain ⟨p, member, rfl⟩ := List.mem_map.mp earlier
        rw [List.mem_singleton.mp last]
        exact Nat.lt_succ_of_le (kept p member)
    · intro p member
      rcases List.mem_append.mp member with earlier | last
      · exact Nat.le_succ_of_le (kept p earlier)
      · rw [List.mem_singleton.mp last]

theorem replaceEntry (ordered : b.Numbered) (e : Entry) : (b.replaceEntry e).Numbered := by
  unfold Books.replaceEntry
  refine Numbered.notePosting ?_ _ _
  exact ordered.of_postOrder rfl rfl

theorem addEntry (ordered : b.Numbered) {e : Entry} (added : b.addEntry e = .ok b') : b'.Numbered := by
  rw [(addEntry_eq_ok.mp added).2]
  refine Numbered.notePosting ?_ _ _
  exact ordered.of_postOrder rfl rfl

theorem removeEntry (ordered : b.Numbered) (k : String) : (b.removeEntry k).Numbered :=
  ordered.filter _ (by rw [removeEntry_postOrder]; rfl) rfl

theorem applyWrites (ordered : b.Numbered) (writes : List (String × Decimal)) (user : String)
    (now : Timestamp) : (b.applyWrites writes user now).Numbered :=
  ordered.of_postOrder (by rw [applyWrites_eq]) (by rw [applyWrites_eq])

-- Every change of the books keeps the posting order numbered.
theorem change {c : Ctx} (ordered : b.Numbered) (changed : Books.Change c b b') : b'.Numbered := by
  cases changed with
  | unchanged => exact ordered
  | opened a _ _ _ => exact ordered.of_postOrder rfl rfl
  | redescribed kept =>
    obtain ⟨g, _, rfl⟩ := kept
    exact ordered.of_postOrder rfl rfl
  | drafted pfx e _ _ _ _ _ _ => exact ordered.of_postOrder rfl rfl
  | numbered pfx _ => exact ordered.of_postOrder rfl rfl
  | redrafted e0 e _ _ _ => exact ordered.replaceEntry e
  | discarded e0 _ _ => exact ordered.removeEntry _
  | posted e0 e writes _ _ _ => exact (ordered.applyWrites _ _ _).replaceEntry e
  | reversed src comp id writes b₁ _ _ _ _ _ stored =>
    have numbered : (b.nextNumber c.tenant "RV").2.Numbered := ordered.of_postOrder rfl rfl
    exact ((numbered.applyWrites _ _ _).addEntry stored).replaceEntry _

-- Read by number, the posting order is the order it is stored in.
theorem sorted (ordered : b.Numbered) :
    sortBy (fun x y => decide (x.2 ≤ y.2)) b.postOrder = b.postOrder := by
  rw [sortBy_eq_insertionSort]
  refine List.Pairwise.insertionSort_eq ?_
  refine (List.pairwise_map.mp ordered.increasing).imp fun below => ?_
  exact decide_eq_true (Nat.le_of_lt below)

end Numbered

end Books

theorem Office.run_numbered {o : Office} (ordered : o.books.Numbered) (calls : List Call) :
    (o.run calls).books.Numbered :=
  Office.run_invariant (fun o => o.books.Numbered)
    (fun o call ordered => ordered.change (Call.perform_change call o)) ordered calls

-- The entries a statement reads, in the order they left draft, when reading the posting order
-- by number leaves it as it is.
theorem Office.postedEntries_of_sorted {b : Books}
    (sorted : sortBy (fun x y => decide (x.2 ≤ y.2)) b.postOrder = b.postOrder) (tenant : String) :
    Office.postedEntries b tenant = b.postings.filterMap fun k => (b.entry? k).filter (·.tenant == tenant) := by
  rw [Office.postedEntries, sorted, Books.postings, List.filterMap_map]
  rfl

theorem Office.postedEntries_of_numbered {b : Books} (ordered : b.Numbered) (tenant : String) :
    Office.postedEntries b tenant = b.postings.filterMap fun k => (b.entry? k).filter (·.tenant == tenant) :=
  Office.postedEntries_of_sorted ordered.sorted tenant

end Ledger
