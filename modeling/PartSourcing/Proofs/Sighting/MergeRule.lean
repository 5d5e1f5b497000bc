import PartSourcing.Proofs.Sighting.Merge

/-!
# The rule of merging, in closed form

Merging fills a sighting in from one duplicate after the other, and what comes of it can be said
without the filling: **each field that is filled in is that of the first duplicate, in order of
precedence, that has it** (`foldl_fill_eq`).  A price brings its currency along, and a sighting
without a price keeps the currency of the foremost duplicate.

`IsMergeOf` states this for one identity, and `IsMerged` for a list of sightings.  Neither mentions
a sort or a fold, only which order things stand in, and there is just one list of which it is true
(`isMerged_iff`).
-/

namespace PartSourcing.Sighting

open PartSourcing.Calendar

variable (c : EngineConfig)

/-! ## Filling in -/

section Fill

variable (base other : Sighting) (others : List Sighting)

theorem fill_price_eq : (fill base other).price = base.price.or other.price := by
  unfold fill
  cases base.price <;> cases other.price <;> rfl

theorem fill_currency_eq : (fill base other).currency =
    if base.price.isSome then base.currency else if other.price.isSome then other.currency
      else base.currency := by
  unfold fill
  cases base.price <;> cases other.price <;> rfl

/-- A field that is filled in is that of the first that has it. -/
theorem foldl_fill_field {β : Type} (field : Sighting → Option β)
    (hfill : ∀ s t, field (fill s t) = (field s).or (field t)) :
    field (others.foldl fill base) = (base :: others).findSome? field := by
  induction others generalizing base with
  | nil => simp
  | cons other others ih =>
    rw [List.foldl_cons, ih, List.findSome?_cons, hfill, List.findSome?_cons, List.findSome?_cons]
    cases field base <;> rfl

/-- The currency is that of the first that has a price. -/
theorem foldl_fill_currency : (others.foldl fill base).currency =
    (((base :: others).find? (·.price.isSome)).getD base).currency := by
  induction others generalizing base with
  | nil => cases h : base.price <;> simp [h]
  | cons other others ih =>
    have hprice : (fill base other).price.isSome = (base.price.isSome || other.price.isSome) := by
      rw [fill_price_eq, Option.isSome_or]
    have hcurrency := fill_currency_eq base other
    rw [List.foldl_cons, ih]
    simp only [List.find?_cons, hprice]
    cases hb : base.price.isSome with
    | true =>
      rw [hb, if_pos rfl] at hcurrency
      exact hcurrency
    | false =>
      rw [hb, if_neg Bool.false_ne_true] at hcurrency
      cases ho : other.price.isSome with
      | true =>
        rw [ho, if_pos rfl] at hcurrency
        exact hcurrency
      | false =>
        -- none of the two has a price, so both leave the choice to the rest
        rw [ho, if_neg Bool.false_ne_true] at hcurrency
        simp only [Bool.or_self]
        cases others.find? (·.price.isSome) with
        | none => exact hcurrency
        | some s => rfl

/-- **What filling in makes of a sighting**, all at once. -/
theorem foldl_fill_eq : others.foldl fill base =
    let sorted := base :: others
    { base with
      manufacturer := sorted.findSome? (·.manufacturer)
      quantity := sorted.findSome? (·.quantity)
      price := sorted.findSome? (·.price)
      currency := ((sorted.find? (·.price.isSome)).getD base).currency
      condition := sorted.findSome? (·.condition)
      leadTime := sorted.findSome? (·.leadTime)
      url := sorted.findSome? (·.url) } := by
  have hkept : others.foldl fill base =
      { base with
        manufacturer := (others.foldl fill base).manufacturer
        quantity := (others.foldl fill base).quantity
        price := (others.foldl fill base).price
        currency := (others.foldl fill base).currency
        condition := (others.foldl fill base).condition
        leadTime := (others.foldl fill base).leadTime
        url := (others.foldl fill base).url } := by
    induction others generalizing base with
    | nil => rfl
    | cons other others ih => exact ih (fill base other)
  rw [hkept, foldl_fill_currency, foldl_fill_field base others (·.manufacturer) fun _ _ => rfl,
    foldl_fill_field base others (·.quantity) fun _ _ => rfl,
    foldl_fill_field base others (·.price) fill_price_eq,
    foldl_fill_field base others (·.condition) fun _ _ => rfl,
    foldl_fill_field base others (·.leadTime) fun _ _ => rfl,
    foldl_fill_field base others (·.url) fun _ _ => rfl]

end Fill

/-! ## The rule -/

/-- **What merging makes of the duplicates of one identity.**  Standing in the order of precedence,
the first of them gives all that is not filled in; each field that is filled in comes from the first
that has it, a price together with its currency.  One that is authorized makes the whole
authorized, and the sources are those of the duplicates in the order in which they came, each
once. -/
structure IsMergeOf (group : List Sighting) (m : Sighting) : Prop where
  filled : ∃ first others, Sorting.StablySorted (precedence c) group (first :: others) ∧
    let sorted := first :: others
    m = { first with
      manufacturer := sorted.findSome? (·.manufacturer)
      quantity := sorted.findSome? (·.quantity)
      price := sorted.findSome? (·.price)
      currency := ((sorted.find? (·.price.isSome)).getD first).currency
      condition := sorted.findSome? (·.condition)
      leadTime := sorted.findSome? (·.leadTime)
      url := sorted.findSome? (·.url)
      isAuthorized := m.isAuthorized
      reportedBy := m.reportedBy }
  authorized : m.isAuthorized = true ↔ ∃ s ∈ group, s.isAuthorized = true
  sources : IsFirsts (group.flatMap (·.reportedBy)) m.reportedBy

variable {c}

theorem IsMergeOf.unique {group : List Sighting} {m m' : Sighting} (h : IsMergeOf c group m)
    (h' : IsMergeOf c group m') : m = m' := by
  obtain ⟨first, others, hsorted, hm⟩ := h.filled
  obtain ⟨first', others', hsorted', hm'⟩ := h'.filled
  obtain ⟨rfl, rfl⟩ := List.cons.inj (hsorted.unique hsorted')
  have hauthorized : m.isAuthorized = m'.isAuthorized :=
    Bool.eq_iff_iff.mpr (h.authorized.trans h'.authorized.symm)
  rw [hm, hm', hauthorized, h.sources.unique h'.sources]

/-- **A group is merged by the rule.** -/
theorem isMergeOf_of_mergeGroup? {group : List Sighting} {m : Sighting}
    (h : mergeGroup? c group = some m) : IsMergeOf c group m := by
  unfold mergeGroup? at h
  split at h
  · exact absurd h.symm (Option.some_ne_none m)
  · rename_i first others hsort
    obtain rfl := Option.some.inj h
    refine ⟨⟨first, others, hsort ▸ (precedes_goesBy c).stablySorted_mergeSort group, ?_⟩, ?_,
      isFirsts_eraseDups _⟩
    · rw [foldl_fill_eq]
    · exact List.any_eq_true

variable (c)

/-- **What merging makes of some sightings**: one sighting for each identity, in order of first
appearance. -/
def IsMerged (l out : List Sighting) : Prop :=
  ∃ ks, IsFirsts (l.map identity) ks ∧
    List.Forall₂ (fun k m => IsMergeOf c (l.filter fun s => s.identity = k) m) ks out

theorem isMerged_mergeDuplicates (l : List Sighting) : IsMerged c l (mergeDuplicates c l) := by
  refine ⟨identities l, isFirsts_eraseDups _, ?_⟩
  have hrule : ∀ ks, (∀ k ∈ ks, k ∈ identities l) → List.Forall₂
      (fun k m => IsMergeOf c (l.filter fun s => s.identity = k) m) ks
      (ks.filterMap fun k => mergeGroup? c (groupOf l k)) := by
    intro ks hks
    induction ks with
    | nil => exact List.Forall₂.nil
    | cons k ks ih =>
      obtain ⟨m, hm, -⟩ := exists_merged c (hks k List.mem_cons_self)
      have hcons : (k :: ks).filterMap (fun k => mergeGroup? c (groupOf l k)) =
          m :: ks.filterMap fun k => mergeGroup? c (groupOf l k) :=
        List.filterMap_cons_some hm
      rw [hcons]
      exact List.Forall₂.cons (isMergeOf_of_mergeGroup? hm)
        (ih fun k' hk' => hks k' (List.mem_cons_of_mem _ hk'))
  exact hrule _ fun _ hk => hk

/-- **Merging follows the rule**, and nothing else does.  One sighting comes out for each identity,
in order of first appearance, and it is what `IsMergeOf` says of the duplicates of that identity. -/
theorem isMerged_iff (l out : List Sighting) : IsMerged c l out ↔ out = mergeDuplicates c l := by
  constructor
  · rintro ⟨ks, hks, hout⟩
    obtain ⟨ks', hks', hmerged⟩ := isMerged_mergeDuplicates c l
    obtain rfl := hks.unique hks'
    -- what stands for an identity is settled by the rule
    exact List.right_unique_forall₂' (fun _ _ _ h h' => h.unique h') hout hmerged
  · rintro rfl
    exact isMerged_mergeDuplicates c l

end PartSourcing.Sighting
