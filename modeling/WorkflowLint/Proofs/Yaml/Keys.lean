import Mathlib.Data.List.Nodup
import WorkflowLint.Proofs.Yaml.Nodes

/-!
# Keys — the keys of a mapping that is read differ

A mapping is read entry by entry, and a key that is the same as one before it is refused. As every
value is the same as itself (`Value.same_refl`), no key of a mapping that is read comes twice
(`Value.nodup_keys_of_parse`).
-/

namespace WorkflowLint
namespace Yaml

/-! ## Values are the same as themselves -/

theorem Number.same_refl (n : Number) : n.same n = true := by
  cases n with
  | integer n =>
      exact beq_self_eq_true n
  | real x =>
      cases x <;> simp [same, Binary64.same]

namespace Value

mutual

theorem same_refl (v : Value) : same v v = true := by
  cases v with
  | number n =>
      rw [same, n.same_refl]
  | sequence items =>
      rw [same, sameItems_refl items]
  | mapping entries =>
      rw [same, beq_self_eq_true, entriesAmong_of_subset entries entries fun _ h => h]
      rfl
  | tagged tag v =>
      rw [same, beq_self_eq_true, same_refl v]
      rfl
  | _ =>
      simp [same]

theorem sameItems_refl (items : List Value) : sameItems items items = true := by
  cases items with
  | nil =>
      rfl
  | cons v items =>
      rw [sameItems, same_refl v, sameItems_refl items]
      rfl

theorem entriesAmong_of_subset (as bs : List (Value × Value)) (h : ∀ e ∈ as, e ∈ bs) :
    entriesAmong as bs = true := by
  cases as with
  | nil =>
      rfl
  | cons e as =>
      rcases e with ⟨k, v⟩
      rw [List.forall_mem_cons] at h
      have hfirst : bs.any (fun e => same k e.1 && same v e.2) = true := by
        refine List.any_eq_true.2 ⟨(k, v), h.1, ?_⟩
        rw [same_refl k, same_refl v]
        rfl
      rw [entriesAmong, hfirst, entriesAmong_of_subset as bs h.2]
      rfl

end

/-! ## Keys that are read -/

theorem not_mem_keys_of_findKey? {key : Value} {entries : List (Value × Value)}
    (h : findKey? key entries = none) : key ∉ entries.map Prod.fst := by
  induction entries with
  | nil =>
      simp
  | cons e entries ih =>
      rcases e with ⟨k, v⟩
      rw [findKey?] at h
      split at h
      · cases h
      · next hdiffers =>
        rw [List.map_cons, List.mem_cons, not_or]
        refine ⟨?_, ih h⟩
        rintro rfl
        exact hdiffers (same_refl _)

variable {entries done : List (Value × Value)} {jumps jumps' : Nat}

/-- Reading goes on with keys that differ. -/
theorem nodup_keys_of_ofEntries {read : Node → Path → Reading Value} {mark : Mark} {path : Path}
    {nodes : List (Node × Node)} (hdone : (done.map Prod.fst).Nodup)
    (h : ofEntries read mark path done nodes jumps = .ok (entries, jumps')) :
    (entries.map Prod.fst).Nodup := by
  induction nodes generalizing done jumps with
  | nil =>
      cases h
      exact hdone
  | cons node nodes ih =>
      rcases node with ⟨k, v⟩
      rcases of_bind_eq_ok (x := read k path jumps) h with ⟨⟨key, jumps₁⟩, _, h⟩
      cases hfind : findKey? key done with
      | some first =>
          simp only [hfind] at h
          cases h
      | none =>
          simp only [hfind] at h
          rcases of_bind_eq_ok (x := read v (entryPath path k) jumps₁) h with
            ⟨⟨value, jumps₂⟩, _, h⟩
          refine ih ?_ h
          rw [List.map_append, List.map_singleton]
          exact hdone.append (List.nodup_singleton _)
            (List.disjoint_singleton.2 (not_mem_keys_of_findKey? hfind))

/-- The keys of a mapping that a text holds differ. -/
theorem nodup_keys_of_parse {text : String} (h : parse text = .ok (.mapping entries)) :
    (entries.map Prod.fst).Nodup := by
  rcases root_of_ofDocument_eq_mapping h with ⟨_, _, _, _, _, _, hread⟩
  have hnone : (([] : List (Value × Value)).map Prod.fst).Nodup := List.nodup_nil
  exact nodup_keys_of_ofEntries hnone hread

end Value

end Yaml
end WorkflowLint
