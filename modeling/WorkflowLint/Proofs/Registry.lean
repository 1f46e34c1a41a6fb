import Mathlib.Data.Finset.Card
import Mathlib.Data.List.Induction
import WorkflowLint.Registry

/-!
# Registry — what a history of registrations leaves

Rules may be registered in any number, under new identifiers and under ones that are taken. A
registry then shows nothing of its history but this (`Registry.Reflects`): which identifiers were
registered, in the order of their first registrations, and under each of them the rule that was
registered last. One more registration keeps it so (`Reflects.register`), hence any number of them
does, and a run carries out each of these rules once (`registerAll_start`).
-/

namespace WorkflowLint
namespace Registry

/-! ## One registration -/

theorem ids_register (rule : Rule) (registry : Registry) :
    (register rule registry).ids =
      if rule.id ∈ registry.ids then registry.ids else registry.ids ++ [rule.id] := by
  induction registry with
  | nil =>
      simp [register, ids]
  | cons r registry ih =>
      by_cases hid : r.id = rule.id
      · simp [register, ids, hid]
      · have hcons : (register rule (r :: registry)).ids =
            r.id :: (register rule registry).ids := by
          simp [register, ids, hid]
        rw [hcons, ih]
        split <;> simp_all [ids, Ne.symm hid]

theorem get?_cons (r : Rule) (registry : Registry) (id : String) :
    get? (r :: registry) id = if r.id = id then some r else registry.get? id := by
  by_cases hid : r.id = id <;> simp [get?, hid]

/-- What is found under an identifier changes for that of the rule only. -/
theorem get?_register (rule : Rule) (registry : Registry) (id : String) :
    (register rule registry).get? id =
      if rule.id = id then some rule else registry.get? id := by
  induction registry with
  | nil =>
      rw [register, get?_cons]
  | cons r registry ih =>
      rw [register]
      by_cases hid : r.id = rule.id
      · rw [if_pos (beq_iff_eq.2 hid), get?_cons, get?_cons, hid]
        by_cases hfound : rule.id = id <;> simp [hfound]
      · rw [if_neg (mt beq_iff_eq.1 hid), get?_cons, ih, get?_cons]
        by_cases hfound : r.id = id
        · -- the rule in front is not the one that is replaced
          have hother : rule.id ≠ id := fun h => hid (hfound.trans h.symm)
          simp [hfound, hother]
        · simp [hfound]

theorem get?_eq_none_iff (registry : Registry) (id : String) :
    registry.get? id = none ↔ id ∉ registry.ids := by
  simp [get?, ids, List.find?_eq_none]

/-- As long as identifiers differ, each rule is found under its own. -/
theorem get?_of_mem {registry : Registry} (hids : registry.ids.Nodup) {r : Rule}
    (hr : r ∈ registry) : registry.get? r.id = some r := by
  induction registry with
  | nil =>
      cases hr
  | cons first registry ih =>
      rw [ids, List.map_cons, List.nodup_cons] at hids
      rw [get?_cons]
      rcases List.mem_cons.1 hr with rfl | hr
      · rw [if_pos rfl]
      · have hne : first.id ≠ r.id := fun h => hids.1 (h ▸ List.mem_map_of_mem hr)
        rw [if_neg hne, ih hids.2 hr]

/-! ## Histories -/

/-- Among rules registered in order, the last one under an identifier. -/
def IsLatest (registered : List Rule) (id : String) (r : Rule) : Prop :=
  ∃ earlier later, registered = earlier ++ r :: later ∧ r.id = id ∧ id ∉ ids later

theorem ids_append_singleton (registered : List Rule) (rule : Rule) :
    ids (registered ++ [rule]) = ids registered ++ [rule.id] :=
  List.map_append ..

theorem not_isLatest_nil (id : String) (r : Rule) : ¬ IsLatest [] id r := by
  rintro ⟨earlier, later, hnil, _⟩
  simp at hnil

theorem isLatest_append_singleton (registered : List Rule) (rule : Rule) (id : String) (r : Rule) :
    IsLatest (registered ++ [rule]) id r ↔
      if rule.id = id then r = rule else IsLatest registered id r := by
  constructor
  · rintro ⟨earlier, later, hparts, hid, hlater⟩
    rcases List.eq_nil_or_concat' later with rfl | ⟨later, last, rfl⟩
    · -- nothing was registered behind it, so it is the new rule
      rcases List.append_inj' hparts rfl with ⟨_, hsame⟩
      cases hsame
      simp [hid]
    · rw [← List.cons_append, ← List.append_assoc] at hparts
      rcases List.append_inj' hparts rfl with ⟨hearlier, hsame⟩
      cases hsame
      rw [ids_append_singleton, List.mem_append, List.mem_singleton, not_or] at hlater
      rw [if_neg (Ne.symm hlater.2)]
      exact ⟨earlier, later, hearlier, hid, hlater.1⟩
  · split
    · next hid =>
      rintro rfl
      exact ⟨registered, [], rfl, hid, by simp [ids]⟩
    · next hother =>
      rintro ⟨earlier, later, rfl, hid, hlater⟩
      refine ⟨earlier, later ++ [rule], by simp, hid, ?_⟩
      rw [ids_append_singleton, List.mem_append, List.mem_singleton]
      exact not_or_intro hlater (Ne.symm hother)

/-- What a registry shows of the rules that were registered: their identifiers in the order of
first registrations, and under each of them the rule registered last. -/
structure Reflects (registry : Registry) (registered : List Rule) : Prop where
  mem_ids_iff : ∀ id, id ∈ registry.ids ↔ id ∈ ids registered
  ordered : registry.ids.Pairwise fun a b =>
    (ids registered).idxOf a < (ids registered).idxOf b
  get?_eq_some_iff : ∀ id r, registry.get? id = some r ↔ IsLatest registered id r

namespace Reflects

variable {registry : Registry} {registered : List Rule}

theorem nil : Reflects [] [] where
  mem_ids_iff := fun _ => Iff.rfl
  ordered := List.Pairwise.nil
  get?_eq_some_iff := fun id r => by simp [get?, not_isLatest_nil]

/-- One more registration is reflected, too. -/
theorem register (h : registry.Reflects registered) (rule : Rule) :
    (register rule registry).Reflects (registered ++ [rule]) where
  mem_ids_iff := by
    intro id
    rw [ids_register, ids_append_singleton, List.mem_append, List.mem_singleton,
      ← h.mem_ids_iff]
    split
    · next hold =>
      constructor
      · exact .inl
      · rintro (hid | rfl)
        · exact hid
        · exact hold
    · rw [List.mem_append, List.mem_singleton]
  ordered := by
    -- the first registrations that are behind do not move
    have hplace : ∀ id ∈ registry.ids,
        (ids registered ++ [rule.id]).idxOf id = (ids registered).idxOf id :=
      fun id hid => List.idxOf_append_of_mem ((h.mem_ids_iff id).1 hid)
    have hkept : registry.ids.Pairwise fun a b =>
        (ids registered ++ [rule.id]).idxOf a < (ids registered ++ [rule.id]).idxOf b := by
      refine h.ordered.imp_of_mem ?_
      intro a b ha hb hlt
      rwa [hplace a ha, hplace b hb]
    rw [ids_register, ids_append_singleton]
    split
    · exact hkept
    · next hnew =>
      refine List.pairwise_append.2 ⟨hkept, List.pairwise_singleton _ _, ?_⟩
      intro a ha b hb
      rw [List.mem_singleton] at hb
      subst hb
      have hlast : rule.id ∉ ids registered := mt (h.mem_ids_iff _).2 hnew
      rw [hplace a ha, List.idxOf_append_of_notMem hlast]
      exact Nat.lt_add_right _ (List.idxOf_lt_length_of_mem ((h.mem_ids_iff a).1 ha))
  get?_eq_some_iff := by
    intro id r
    rw [get?_register, isLatest_append_singleton]
    split
    · rw [Option.some.injEq, eq_comm]
    · exact h.get?_eq_some_iff id r

/-- So are any number of further registrations. -/
theorem registerAll (h : registry.Reflects registered) (history : List Rule) :
    (registry.registerAll history).Reflects (registered ++ history) := by
  induction history generalizing registry registered with
  | nil =>
      rw [List.append_nil]
      exact h
  | cons rule history ih =>
      rw [List.append_cons]
      exact ih (h.register rule)

theorem nodup_ids (h : registry.Reflects registered) : registry.ids.Nodup := by
  rw [List.nodup_iff_pairwise_ne]
  refine h.ordered.imp ?_
  rintro id _ hlt rfl
  exact Nat.lt_irrefl _ hlt

/-- There are as many rules as identifiers have been registered. -/
theorem length_eq (h : registry.Reflects registered) :
    registry.length = (ids registered).toFinset.card := by
  have hsame : registry.ids.toFinset = (ids registered).toFinset := by
    ext id
    rw [List.mem_toFinset, List.mem_toFinset, h.mem_ids_iff]
  calc
    registry.length = registry.ids.length := (List.length_map ..).symm
    _ = registry.ids.toFinset.card := (List.toFinset_card_of_nodup h.nodup_ids).symm
    _ = (ids registered).toFinset.card := by rw [hsame]

end Reflects

/-! ## Runs -/

/-- A run carries out the rules that are found under the identifiers, in order. -/
theorem results_eq {registry : Registry} (hids : registry.ids.Nodup) (w : Workflow) (p : Policy) :
    (registry.results w p).map some =
      registry.ids.map fun id => (registry.get? id).map fun r => (id, r.check w p) := by
  rw [results, ids, List.map_map, List.map_map]
  refine List.map_congr_left ?_
  intro r hr
  simp [get?_of_mem hids hr]

/-- How a registry begins. -/
inductive Start
  | empty
  | builtins

/-- The registry before anything else is registered. -/
def Start.rules : Start → Registry
  | .empty => []
  | .builtins => Registry.builtins

theorem Start.reflects (start : Start) : start.rules.Reflects start.rules := by
  cases start with
  | empty =>
      exact .nil
  | builtins =>
      -- its rules come to the same registry if they are registered one by one
      exact Reflects.nil.registerAll Registry.builtins

/-- Say that rules are registered in any order and however often, in a registry that is empty or
has the rules that are always there. Its identifiers then differ. They are those that have been
registered, in the order of their first registrations, and no others. Under each of them the rule
registered last is found, and nothing under any other. A run carries out these rules and no
others, each once and in the order of the identifiers. -/
theorem registerAll_start (start : Start) (history : List Rule) (w : Workflow) (p : Policy) :
    let registered := start.rules ++ history
    let registry := start.rules.registerAll history
    registry.ids.Nodup ∧
      (∀ id, id ∈ registry.ids ↔ id ∈ ids registered) ∧
      (registry.ids.Pairwise fun a b =>
        (ids registered).idxOf a < (ids registered).idxOf b) ∧
      (∀ id r, registry.get? id = some r ↔ IsLatest registered id r) ∧
      (∀ id, registry.get? id = none ↔ id ∉ ids registered) ∧
      registry.length = (ids registered).toFinset.card ∧
      ((registry.results w p).map some =
        registry.ids.map fun id => (registry.get? id).map fun r => (id, r.check w p)) ∧
      registry.run w p = (registry.results w p).flatMap Prod.snd := by
  intro registered registry
  have h : registry.Reflects registered := start.reflects.registerAll history
  refine ⟨h.nodup_ids, h.mem_ids_iff, h.ordered, h.get?_eq_some_iff, ?_, h.length_eq,
    results_eq h.nodup_ids w p, (flatMap_results registry w p).symm⟩
  intro id
  rw [get?_eq_none_iff, h.mem_ids_iff]

end Registry
end WorkflowLint
