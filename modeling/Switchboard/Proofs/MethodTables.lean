import Mathlib.Tactic
import Switchboard.Registry.MethodTable

/-!
# Method tables

A table that is built from plans has one row for every folded name that is not skipped, with the
first plan of that name.
-/

namespace Switchboard

/-! ## Rows by key -/

theorem nodup_keys_snoc {rows : List (String × α)} {key : String} (value : α)
    (hnodup : (rows.map (·.1)).Nodup) (hkey : rows.any (·.1 == key) = false) :
    ((rows ++ [(key, value)]).map (·.1)).Nodup := by
  rw [List.map_append, List.map_singleton, List.nodup_append]
  refine ⟨hnodup, List.nodup_singleton _, ?_⟩
  rintro taken htaken _ hlast rfl
  rw [List.mem_singleton] at hlast
  obtain ⟨row, hrow, rfl⟩ := List.mem_map.1 htaken
  exact List.any_eq_false.1 hkey row hrow (by simpa using hlast)

theorem find?_of_mem_nodup {rows : List (String × α)} {key : String} {value : α}
    (hnodup : (rows.map (·.1)).Nodup) (hmem : (key, value) ∈ rows) :
    rows.find? (·.1 == key) = some (key, value) := by
  induction rows with
  | nil => cases hmem
  | cons row rest ih =>
    rw [List.map_cons, List.nodup_cons] at hnodup
    rcases List.mem_cons.1 hmem with rfl | hrest
    · simp
    · have hrow : row.1 ≠ key := fun h => hnodup.1 (h ▸ List.mem_map_of_mem hrest)
      rw [List.find?_cons_of_neg (by simpa using hrow), ih hnodup.2 hrest]

namespace MethodTable

theorem mem_of_get? {table : MethodTable σ} {name : String} {plan : Plan σ}
    (h : table.get? name = some plan) : (name, plan) ∈ table.entries := by
  obtain ⟨⟨key, _⟩, hfind, rfl⟩ := Option.map_eq_some_iff.1 h
  have hkey : key = name := by simpa using List.find?_some hfind
  exact hkey ▸ List.mem_of_find?_eq_some hfind

theorem mem_names_iff {table : MethodTable σ} {name : String} :
    name ∈ table.names ↔ ∃ plan, (name, plan) ∈ table.entries := by
  simp [names]

theorem isSome_get?_iff {table : MethodTable σ} {name : String} :
    (table.get? name).isSome = true ↔ table.contains name = true := by
  rw [get?, Option.isSome_map, List.find?_isSome, contains, List.any_eq_true]

/-! ## One offer -/

section Offer

variable {naming : Naming} {skipped : List String} {table : MethodTable σ} {plan : Plan σ}

theorem offer_of_skipped (h : naming.fold plan.name ∈ skipped) :
    offer naming skipped table plan = table := by
  simp [offer, fate, h]

theorem offer_of_taken (h : table.contains (naming.fold plan.name) = true) :
    offer naming skipped table plan = table := by
  by_cases hskipped : naming.fold plan.name ∈ skipped
  · exact offer_of_skipped hskipped
  · simp [offer, fate, hskipped, h]

theorem offer_of_free (hskipped : naming.fold plan.name ∉ skipped)
    (h : table.contains (naming.fold plan.name) = false) :
    offer naming skipped table plan = ⟨table.entries ++ [(naming.fold plan.name, plan)]⟩ := by
  simp [offer, fate, hskipped, h]

end Offer

private theorem get?_snoc (entries : List (String × Plan σ)) (key : String) (plan : Plan σ)
    (name : String) :
    get? ⟨entries ++ [(key, plan)]⟩ name =
      (get? ⟨entries⟩ name).or (if key = name then some plan else none) := by
  simp only [get?, List.find?_append, Option.map_or]
  by_cases h : key = name <;> simp [h]

theorem get?_offer (naming : Naming) (skipped : List String) (table : MethodTable σ)
    (plan : Plan σ) (name : String) :
    (offer naming skipped table plan).get? name =
      (table.get? name).or
        (if naming.fold plan.name = name ∧ name ∉ skipped then some plan else none) := by
  by_cases hskipped : naming.fold plan.name ∈ skipped
  · rw [offer_of_skipped hskipped, if_neg (fun h => h.2 (h.1 ▸ hskipped)), Option.or_none]
  · by_cases hname : naming.fold plan.name = name
    · cases htaken : table.contains (naming.fold plan.name) with
      | true =>
        rw [offer_of_taken htaken]
        rw [hname] at htaken
        rw [Option.or_of_isSome (isSome_get?_iff.2 htaken)]
      | false =>
        rw [offer_of_free hskipped htaken, get?_snoc, if_pos hname,
          if_pos ⟨hname, hname ▸ hskipped⟩]
    · rw [if_neg (fun h => hname h.1), Option.or_none]
      cases htaken : table.contains (naming.fold plan.name) with
      | true => rw [offer_of_taken htaken]
      | false => rw [offer_of_free hskipped htaken, get?_snoc, if_neg hname, Option.or_none]

private theorem nodup_offer {naming : Naming} {skipped : List String} {table : MethodTable σ}
    (h : (table.entries.map (·.1)).Nodup) (plan : Plan σ) :
    ((offer naming skipped table plan).entries.map (·.1)).Nodup := by
  by_cases hskipped : naming.fold plan.name ∈ skipped
  · rwa [offer_of_skipped hskipped]
  · cases htaken : table.contains (naming.fold plan.name) with
    | true => rwa [offer_of_taken htaken]
    | false =>
      rw [offer_of_free hskipped htaken]
      exact nodup_keys_snoc plan h htaken

/-! ## All offers -/

private theorem get?_foldl_offer (naming : Naming) (skipped : List String) (plans : List (Plan σ))
    (table : MethodTable σ) (name : String) :
    (plans.foldl (offer naming skipped) table).get? name =
      (table.get? name).or
        (if name ∈ skipped then none else plans.find? (naming.fold ·.name == name)) := by
  induction plans generalizing table with
  | nil => simp
  | cons plan plans ih =>
    rw [List.foldl_cons, ih, get?_offer, Option.or_assoc]
    congr 1
    by_cases hskipped : name ∈ skipped
    · simp [hskipped]
    · by_cases hname : naming.fold plan.name = name <;> simp [hskipped, hname]

/-- What a lookup finds in the table of some plans: under a skipped name nothing, and under any
other the first plan that is so named. -/
theorem get?_ofPlans (naming : Naming) (skipped : List String) (plans : List (Plan σ))
    (name : String) :
    (ofPlans naming skipped plans).get? name =
      if name ∈ skipped then none else plans.find? (naming.fold ·.name == name) := by
  rw [ofPlans, get?_foldl_offer]
  rfl

theorem mem_of_get?_ofPlans {naming : Naming} {skipped : List String} {plans : List (Plan σ)}
    {name : String} {plan : Plan σ} (h : (ofPlans naming skipped plans).get? name = some plan) :
    plan ∈ plans ∧ name = naming.fold plan.name ∧ name ∉ skipped := by
  rw [get?_ofPlans] at h
  by_cases hskipped : name ∈ skipped
  · simp [hskipped] at h
  · rw [if_neg hskipped] at h
    have hname : naming.fold plan.name = name := by simpa using List.find?_some h
    exact ⟨List.mem_of_find?_eq_some h, hname.symm, hskipped⟩

theorem nodup_ofPlans (naming : Naming) (skipped : List String) (plans : List (Plan σ)) :
    ((ofPlans naming skipped plans).entries.map (·.1)).Nodup := by
  have hfold : ∀ table : MethodTable σ, (table.entries.map (·.1)).Nodup →
      ((plans.foldl (offer naming skipped) table).entries.map (·.1)).Nodup := by
    induction plans with
    | nil => exact fun _ h => h
    | cons plan plans ih => exact fun table h => ih _ (nodup_offer h plan)
  exact hfold {} (by simp)

theorem get?_ofPlans_of_mem {naming : Naming} {skipped : List String} {plans : List (Plan σ)}
    {name : String} {plan : Plan σ} (h : (name, plan) ∈ (ofPlans naming skipped plans).entries) :
    (ofPlans naming skipped plans).get? name = some plan := by
  rw [get?, find?_of_mem_nodup (nodup_ofPlans naming skipped plans) h]
  rfl

theorem isEmpty_ofPlans_iff {naming : Naming} {skipped : List String} {plans : List (Plan σ)} :
    (ofPlans naming skipped plans).isEmpty = true ↔
      ∀ plan ∈ plans, naming.fold plan.name ∈ skipped := by
  rw [isEmpty, List.isEmpty_iff, List.eq_nil_iff_forall_not_mem]
  constructor
  · intro hempty plan hplan
    by_contra hskipped
    have hsome : (plans.find? (naming.fold ·.name == naming.fold plan.name)).isSome :=
      List.find?_isSome.2 ⟨plan, hplan, by simp⟩
    obtain ⟨first, hfirst⟩ := Option.isSome_iff_exists.1 hsome
    have hget : (ofPlans naming skipped plans).get? (naming.fold plan.name) = some first := by
      rw [get?_ofPlans, if_neg hskipped, hfirst]
    exact hempty _ (mem_of_get? hget)
  · rintro hskipped ⟨name, plan⟩ hmem
    obtain ⟨hplan, rfl, hshown⟩ := mem_of_get?_ofPlans (get?_ofPlans_of_mem hmem)
    exact hshown (hskipped plan hplan)

theorem ofPlans_append_cons {naming : Naming} {skipped : List String} {front : List (Plan σ)}
    {plan : Plan σ} (back : List (Plan σ))
    (h : naming.fold plan.name ∈ skipped ∨
      ∃ earlier ∈ front, naming.fold earlier.name = naming.fold plan.name) :
    ofPlans naming skipped (front ++ plan :: back) = ofPlans naming skipped (front ++ back) := by
  have hoffer : offer naming skipped (ofPlans naming skipped front) plan =
      ofPlans naming skipped front := by
    by_cases hskipped : naming.fold plan.name ∈ skipped
    · exact offer_of_skipped hskipped
    · obtain ⟨earlier, hearlier, hname⟩ := h.resolve_left hskipped
      have hsome : ((ofPlans naming skipped front).get? (naming.fold plan.name)).isSome := by
        rw [get?_ofPlans, if_neg hskipped, List.find?_isSome]
        exact ⟨earlier, hearlier, by simpa using hname⟩
      exact offer_of_taken (isSome_get?_iff.1 hsome)
  rw [ofPlans] at hoffer
  rw [ofPlans, ofPlans, List.foldl_append, List.foldl_cons, hoffer, List.foldl_append]

end MethodTable

end Switchboard
