import RecordQuery.Proofs.Query.Comparators
import RecordQuery.Query.StableSort
import Mathlib.Data.List.Basic

/-!
# Stably sorted lists

A list is a stable sort of another when it has the same items, none of them after a later one,
and when the items of each tie stand in the order that they had. A comparator that orders the
items leaves one such list only. Insertion from the end finds it, so keeping some of the items
and sorting them commute, and a sort by a coarser comparator has no influence on a later sort
by a finer one.
-/

namespace RecordQuery

variable {α : Type} {compare : α → α → Ordering}

/-- The items of a list that tie with an item. -/
def tiedWith (compare : α → α → Ordering) (item : α) (items : List α) : List α :=
  items.filter fun other => compare item other == .eq

/-- A list is a stable sort of another. -/
structure StablySorted (compare : α → α → Ordering) (before after : List α) : Prop where
  perm : after.Perm before
  sorted : after.Pairwise fun earlier later => compare earlier later ≠ .gt
  stable : ∀ item ∈ before, tiedWith compare item after = tiedWith compare item before

/-- Two sorted lists with the same items and the same ties begin with the same item. Both begin with
    an item that no other comes before, so these two tie, and ties stand in the same order. -/
theorem head_eq_of_ties {first second : α} {rest others : List α}
    (orders : OrdersOn compare (· ∈ first :: rest))
    (perm : (second :: others).Perm (first :: rest))
    (sorted : (first :: rest).Pairwise fun earlier later => compare earlier later ≠ .gt)
    (otherSorted : (second :: others).Pairwise fun earlier later => compare earlier later ≠ .gt)
    (ties : tiedWith compare first (second :: others) = tiedWith compare first (first :: rest)) :
    second = first := by
  have known : first ∈ first :: rest := List.mem_cons_self
  have member : second ∈ first :: rest := perm.mem_iff.mp List.mem_cons_self
  have selfTie := orders.refl known
  have tie : compare first second = .eq := by
    rcases List.mem_cons.mp member with rfl | inRest
    · exact selfTie
    · have forth : compare first second ≠ .gt := (List.pairwise_cons.mp sorted).1 second inRest
      rcases List.mem_cons.mp (perm.mem_iff.mpr known) with rfl | inOthers
      · exact selfTie
      · have back := (List.pairwise_cons.mp otherSorted).1 first inOthers
        rw [orders.swap known member] at back
        cases outcome : compare first second <;> simp_all
  simp only [tiedWith, List.filter_cons, tie, selfTie, beq_self_eq_true, if_true] at ties
  exact (List.cons.inj ties).1

/-- Two sorted lists with the same items and the same ties are equal. The induction takes the first
    items away, which are the same by the lemma before. -/
theorem eq_of_ties {first second : List α} (orders : OrdersOn compare (· ∈ first))
    (perm : second.Perm first)
    (sorted : first.Pairwise fun earlier later => compare earlier later ≠ .gt)
    (otherSorted : second.Pairwise fun earlier later => compare earlier later ≠ .gt)
    (ties : ∀ item ∈ first, tiedWith compare item second = tiedWith compare item first) :
    second = first := by
  induction first generalizing second with
  | nil => exact perm.eq_nil
  | cons item rest inductionHypothesis =>
    cases second with
    | nil => exact perm.symm.eq_nil.symm
    | cons other others =>
      obtain rfl : other = item :=
        head_eq_of_ties orders perm sorted otherSorted (ties item List.mem_cons_self)
      have restTies (tied : α) (member : tied ∈ rest) :
          tiedWith compare tied others = tiedWith compare tied rest := by
        have whole := ties tied (List.mem_cons_of_mem _ member)
        simp only [tiedWith, List.filter_cons] at whole
        split at whole
        · exact (List.cons.inj whole).2
        · exact whole
      have same := inductionHypothesis
        (orders.mono fun tied member => List.mem_cons_of_mem _ member)
        ((List.perm_cons other).mp perm) (List.pairwise_cons.mp sorted).2
        (List.pairwise_cons.mp otherSorted).2 restTies
      rw [same]

/-- A comparator that orders the items leaves one stable sort of them. Without order among the items
    there may be several, or none. -/
theorem StablySorted.unique {before after other : List α}
    (orders : OrdersOn compare (· ∈ before)) (first : StablySorted compare before after)
    (second : StablySorted compare before other) : other = after := by
  refine eq_of_ties ?_ (second.perm.trans first.perm.symm) first.sorted second.sorted ?_
  · exact orders.mono fun item member => first.perm.mem_iff.mp member
  · intro item member
    have known := first.perm.mem_iff.mp member
    rw [second.stable item known, first.stable item known]

/-- A sorted list is a stable sort of itself. -/
theorem StablySorted.of_sorted {items : List α}
    (sorted : items.Pairwise fun earlier later => compare earlier later ≠ .gt) :
    StablySorted compare items items :=
  ⟨.refl items, sorted, fun _ _ => rfl⟩

/-- A stable sort is one by every comparator that compares the items alike. It need only agree on
    the items that are sorted. -/
theorem StablySorted.congr {other : α → α → Ordering} {before after : List α}
    (sorts : StablySorted compare before after)
    (same : ∀ a ∈ before, ∀ b ∈ before, other a b = compare a b) :
    StablySorted other before after := by
  refine ⟨sorts.perm, ?_, ?_⟩
  · apply sorts.sorted.imp_of_mem
    intro a b first second notAfter
    rw [same a (sorts.perm.mem_iff.mp first) b (sorts.perm.mem_iff.mp second)]
    exact notAfter
  · intro item member
    have alike (items : List α) (known : ∀ tied ∈ items, tied ∈ before) :
        tiedWith other item items = tiedWith compare item items := by
      apply List.filter_congr
      intro tied inItems
      rw [same item member tied (known tied inItems)]
    rw [alike after fun tied inAfter => sorts.perm.mem_iff.mp inAfter,
      alike before fun _ known => known]
    exact sorts.stable item member

/-- Keeping some items of a stable sort gives a stable sort of these items. What is sorted by a
    comparator stays so without some of its items. -/
theorem StablySorted.filter {before after : List α} (sorts : StablySorted compare before after)
    (keeps : α → Bool) : StablySorted compare (before.filter keeps) (after.filter keeps) := by
  refine ⟨sorts.perm.filter keeps, sorts.sorted.sublist List.filter_sublist, ?_⟩
  intro item member
  have kept (items : List α) :
      tiedWith compare item (items.filter keeps) = (tiedWith compare item items).filter keeps :=
    List.filter_comm ..
  rw [kept, kept, sorts.stable item (List.mem_of_mem_filter member)]

/-- A stable sort by a comparator whose ties all tie under an earlier one is a stable sort of what
    was there before the earlier sort. Items that tie under the finer comparator tie under the other
    too, so the earlier sort left them in their order. -/
theorem StablySorted.of_coarser {finer : α → α → Ordering} {before between after : List α}
    (refines : ∀ a b, finer a b = .eq → compare a b = .eq)
    (coarse : StablySorted compare before between) (fine : StablySorted finer between after) :
    StablySorted finer before after := by
  refine ⟨fine.perm.trans coarse.perm, fine.sorted, ?_⟩
  intro item member
  have narrowed (items : List α) :
      tiedWith finer item items = tiedWith finer item (tiedWith compare item items) := by
    unfold tiedWith
    rw [List.filter_filter]
    refine List.filter_congr fun other _ => ?_
    cases outcome : finer item other == .eq with
    | false => rfl
    | true => simp [refines item other (beq_iff_eq.mp outcome)]
  rw [fine.stable item (coarse.perm.mem_iff.mpr member), narrowed, coarse.stable item member,
    ← narrowed]

/-- An item is placed behind the items that it does not precede, listed from the last one. The list
    runs from the last item to the first, as the program places items from behind. -/
theorem placeItem_sorted {item : α} {placed : List α}
    (orders : OrdersOn compare (· ∈ item :: placed))
    (sorted : placed.Pairwise fun later earlier => compare earlier later ≠ .gt) :
    (placeItem compare item placed).Pairwise fun later earlier =>
      compare earlier later ≠ .gt := by
  induction placed with
  | nil => simp [placeItem]
  | cons last earlier inductionHypothesis =>
    obtain ⟨behind, earlierSorted⟩ := List.pairwise_cons.mp sorted
    have itemKnown : item ∈ item :: last :: earlier := List.mem_cons_self
    have lastKnown : last ∈ item :: last :: earlier := by simp
    unfold placeItem
    split
    · rename_i precedes
      have subset (other : α) (member : other ∈ item :: earlier) :
          other ∈ item :: last :: earlier := by
        rcases List.mem_cons.mp member with rfl | inEarlier
        · exact itemKnown
        · simp [inEarlier]
      refine List.pairwise_cons.mpr
        ⟨fun other member => ?_, inductionHypothesis (orders.mono subset) earlierSorted⟩
      rcases List.mem_cons.mp ((placeItem_perm compare item earlier).mem_iff.mp member) with
        rfl | inEarlier
      · simp [precedes]
      · exact behind other inEarlier
    · rename_i follows
      have below : compare last item ≠ .gt := by
        rw [orders.swap itemKnown lastKnown]
        cases outcome : compare item last <;> simp_all
      refine List.pairwise_cons.mpr ⟨fun other member => ?_, sorted⟩
      rcases List.mem_cons.mp member with rfl | inEarlier
      · exact below
      · exact orders.trans (by simp [inEarlier]) lastKnown itemKnown
          (behind other inEarlier) below

/-- An item is placed last among the placed items that it ties with. The item passes only items that
    it precedes, and so none that it ties with. -/
theorem tiedWith_placeItem {item tied : α} {placed : List α}
    (orders : OrdersOn compare (· ∈ tied :: item :: placed)) :
    tiedWith compare tied (placeItem compare item placed) =
      tiedWith compare tied (item :: placed) := by
  induction placed with
  | nil => rfl
  | cons last earlier inductionHypothesis =>
    unfold placeItem
    split
    · rename_i precedes
      have subset (other : α) (member : other ∈ tied :: item :: earlier) :
          other ∈ tied :: item :: last :: earlier := by
        simp only [List.mem_cons] at member ⊢
        tauto
      have placedEarlier := inductionHypothesis (orders.mono subset)
      simp only [tiedWith, List.filter_cons] at placedEarlier ⊢
      rw [placedEarlier]
      -- The item precedes the one that it is placed before, so they are not in one tie.
      cases inTie : compare tied item == .eq with
      | false => rfl
      | true =>
        have same : compare tied last = compare item last :=
          orders.congr_left (by simp) (by simp) (by simp) (beq_iff_eq.mp inTie)
        simp [same, precedes]
    · rfl

/-- Placing a list of items keeps what is placed sorted, with the ties in order.

    Proof: induction on the items, with what is placed general. Each item keeps the placed ones
    sorted and comes behind those that it ties with. -/
theorem placeAll_sorted (placed items : List α) (orders : OrdersOn compare (· ∈ placed ++ items))
    (sorted : placed.Pairwise fun later earlier => compare earlier later ≠ .gt) :
    (placeAll compare placed items).Pairwise (fun later earlier => compare earlier later ≠ .gt) ∧
      ∀ tied ∈ placed ++ items, tiedWith compare tied (placeAll compare placed items) =
        tiedWith compare tied (items.reverse ++ placed) := by
  induction items generalizing placed with
  | nil => exact ⟨sorted, fun tied _ => rfl⟩
  | cons item rest inductionHypothesis =>
    have perm := placeItem_perm compare item placed
    have subset (other : α) (member : other ∈ placeItem compare item placed ++ rest) :
        other ∈ placed ++ item :: rest := by
      simp only [List.mem_append, perm.mem_iff, List.mem_cons] at member ⊢
      tauto
    have atItem (other : α) (member : other ∈ item :: placed) : other ∈ placed ++ item :: rest := by
      simp only [List.mem_append, List.mem_cons] at member ⊢
      tauto
    obtain ⟨restSorted, restTies⟩ := inductionHypothesis _ (orders.mono subset)
      (placeItem_sorted (orders.mono atItem) sorted)
    refine ⟨restSorted, fun tied member => ?_⟩
    have tiedPlaced : tied ∈ placeItem compare item placed ++ rest := by
      simp only [List.mem_append, perm.mem_iff, List.mem_cons] at member ⊢
      tauto
    have added := tiedWith_placeItem (orders.mono fun other known =>
      (List.mem_cons.mp known).elim (fun same => same ▸ member) (atItem other))
    calc tiedWith compare tied (placeAll compare (placeItem compare item placed) rest)
        = tiedWith compare tied (rest.reverse ++ placeItem compare item placed) :=
          restTies tied tiedPlaced
      _ = tiedWith compare tied rest.reverse ++ tiedWith compare tied (item :: placed) := by
          rw [← added]
          exact List.filter_append ..
      _ = tiedWith compare tied ((item :: rest).reverse ++ placed) := by
          simp [tiedWith, List.filter_cons, List.filter_append]

/-- Sorting gives a stable sort. It is the only place where the algorithm is looked at. -/
theorem stablySorted_stableSort {items : List α} (orders : OrdersOn compare (· ∈ items)) :
    StablySorted compare items (stableSort compare items) := by
  obtain ⟨sorted, ties⟩ := placeAll_sorted [] items (by simpa using orders) .nil
  refine ⟨stableSort_perm compare items, List.pairwise_reverse.mpr sorted, fun item member => ?_⟩
  have tie := ties item (by simpa using member)
  unfold tiedWith at tie ⊢
  rw [stableSort, List.filter_reverse, tie, List.append_nil, List.filter_reverse,
    List.reverse_reverse]

/-- The only stable sort is the one that sorting gives. With it, the result of a sort is known from
    its properties. -/
theorem stablySorted_iff {items sorted : List α} (orders : OrdersOn compare (· ∈ items)) :
    StablySorted compare items sorted ↔ sorted = stableSort compare items := by
  constructor
  · intro sorts
    exact (stablySorted_stableSort orders).unique orders sorts
  · rintro rfl
    exact stablySorted_stableSort orders

/-- Keeping some of the items and sorting commute. Both sides are stable sorts of the items kept,
    and there is only one. -/
theorem stableSort_filter {items : List α} (orders : OrdersOn compare (· ∈ items))
    (keeps : α → Bool) :
    stableSort compare (items.filter keeps) = (stableSort compare items).filter keeps := by
  have kept : OrdersOn compare (· ∈ items.filter keeps) :=
    orders.mono fun item member => List.mem_of_mem_filter member
  have sorts := (stablySorted_stableSort orders).filter keeps
  exact ((stablySorted_iff kept).mp sorts).symm

/-- An earlier sort by a coarser comparator has no influence on a sort. Later keys refine earlier
    ones in this way. -/
theorem stableSort_coarser {finer : α → α → Ordering} {items : List α}
    (orders : OrdersOn compare (· ∈ items)) (finerOrders : OrdersOn finer (· ∈ items))
    (refines : ∀ a b, finer a b = .eq → compare a b = .eq) :
    stableSort finer (stableSort compare items) = stableSort finer items := by
  have sortedOrders : OrdersOn finer (· ∈ stableSort compare items) :=
    finerOrders.mono fun item member => (stableSort_perm compare items).mem_iff.mp member
  have coarse := stablySorted_stableSort orders
  have fine := stablySorted_stableSort sortedOrders
  exact (stablySorted_iff finerOrders).mp (coarse.of_coarser refines fine)

variable {β : Type}

/-- Items made from others are placed as those are. It lets items be sorted beside the values of
    their keys. -/
theorem placeItem_map (make : β → α) (item : β) (placed : List β) :
    placeItem compare (make item) (placed.map make) =
      (placeItem (fun a b => compare (make a) (make b)) item placed).map make := by
  induction placed with
  | nil => rfl
  | cons last earlier inductionHypothesis =>
    simp only [List.map_cons, placeItem]
    split
    · rw [inductionHypothesis, List.map_cons]
    · rfl

/-- Items made from others are placed one after the other as those are. The induction is on the
    items, with those placed already general. -/
theorem placeAll_map (make : β → α) (placed items : List β) :
    placeAll compare (placed.map make) (items.map make) =
      (placeAll (fun a b => compare (make a) (make b)) placed items).map make := by
  induction items generalizing placed with
  | nil => rfl
  | cons item rest inductionHypothesis =>
    simp only [List.map_cons, placeAll]
    rw [placeItem_map, inductionHypothesis]

/-- Items made from others are sorted as those are. -/
theorem stableSort_map (make : β → α) (items : List β) :
    stableSort compare (items.map make) =
      (stableSort (fun a b => compare (make a) (make b)) items).map make := by
  have placed := @placeAll_map _ compare _ make [] items
  rw [stableSort, stableSort, List.map_reverse]
  exact congrArg List.reverse placed

end RecordQuery
